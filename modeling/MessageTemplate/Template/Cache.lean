import MessageTemplate.Template.Basic
/-! A cache of compiled templates keyed by their written text. -/
namespace MessageTemplate

/-- A cached compiled template with the stamp it was stored with. -/
structure CacheEntry where
  template : Template
  stamp : Nat
deriving DecidableEq, Repr

/-- Compiled templates keyed by their written text. -/
structure Cache where
  entries : List (String × CacheEntry)
  nextStamp : Nat
deriving Repr

namespace Cache

def empty : Cache := ⟨[], 0⟩

def size (c : Cache) : Nat := c.entries.length

/-- The cached entry of a written template, if any. -/
def find? (c : Cache) (raw : String) : Option CacheEntry := c.entries.lookup raw

/-- The entry of a written template, compiling and storing it on first use. -/
def get (c : Cache) (raw : String) : CacheEntry × Cache :=
  match c.find? raw with
  | some e => (e, c)
  | none =>
    let e : CacheEntry := ⟨Template.compile raw, c.nextStamp⟩
    (e, ⟨c.entries ++ [(raw, e)], c.nextStamp + 1⟩)

def clear (c : Cache) : Cache := ⟨[], c.nextStamp⟩

end Cache

end MessageTemplate
