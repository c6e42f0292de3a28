import MessageTemplate.Template.Coerce
import MessageTemplate.Value.Format
import MessageTemplate.Composite.Format
/-! Binding values to a compiled template. -/
namespace MessageTemplate

/-- A placeholder name with its value. -/
structure Pair where
  name : String
  value : Value
deriving Inhabited

/-- Why a pair could not be looked up. -/
inductive PairError where
  | pairOutOfRange (index : Int) (count : Nat)
  | valueOutOfRange (index : Int) (count : Nat)
deriving DecidableEq, Repr

def outOfRangeText : String := "index was outside the bounds of the array"

/-- The message of a lookup error. -/
def PairError.message : PairError → String
  | .pairOutOfRange i n => "pair " ++ toString i ++ " of " ++ toString n ++ ": " ++ outOfRangeText
  | .valueOutOfRange i n =>
    "value " ++ toString i ++ " of " ++ toString n ++ ": " ++ outOfRangeText

namespace Template

/-- The number of pairs: one per name and the written template. -/
def len (t : Template) : Nat := t.names.length + 1

/-- The pair at an index. -/
def pair (t : Template) (values : List Value) (i : Int) : Except PairError Pair :=
  if i < 0 || i > t.names.length then .error (.pairOutOfRange i t.len)
  else if i = t.names.length then .ok ⟨originalFormatKey, .str t.original⟩
  else
    match values[i.toNat]? with
    | some v => .ok ⟨t.names.getD i.toNat "", v⟩
    | none => .error (.valueOutOfRange i values.length)

/-- All pairs: each name with its value, or no value, then the written template. -/
def pairs (t : Template) (values : List Value) : List Pair :=
  (t.names.zipIdx.map fun (n, i) => (⟨n, values.getD i .null⟩ : Pair)) ++
    [⟨originalFormatKey, .str t.original⟩]

/-- Render the template with values, each coerced first. -/
def render (t : Template) (values : List Value) : Except Composite.Error String :=
  Composite.format (values.map Value.coerce) Value.formatWith t.positional

end Template

/-- Values bound to a template. -/
structure Bound where
  template : Template
  values : List Value

namespace Bound

def len (b : Bound) : Nat := b.template.len

def pairAt (b : Bound) (i : Int) : Except PairError Pair := b.template.pair b.values i

def pairs (b : Bound) : List Pair := b.template.pairs b.values

/-- The pairs as a map from name to value; a later name wins. -/
def toMap (b : Bound) : List (String × Value) :=
  b.pairs.foldl (fun acc p => (acc.filter (·.1 != p.name)) ++ [(p.name, p.value)]) []

def render (b : Bound) : Except Composite.Error String := b.template.render b.values

/-- The rendered text, or the written template when rendering fails. -/
def text (b : Bound) : String :=
  match b.render with
  | .ok s => s
  | .error _ => b.template.original

end Bound

/-- Interpolate a named template with values in one step. -/
def interpolate (raw : String) (values : List Value) : Except Composite.Error String :=
  (Template.compile raw).render values

/-- Why a template is not valid. -/
structure InvalidTemplate where
  raw : String
  cause : Composite.Error

/-- The message of an invalid template. -/
def InvalidTemplate.message (e : InvalidTemplate) : String :=
  "invalid template " ++ Text.quote e.raw ++ ": " ++ e.cause.message

/-- Check that a template renders when every name has an empty value. -/
def validate (raw : String) : Except InvalidTemplate Unit :=
  let t := Template.compile raw
  match t.render (t.names.map fun _ => .null) with
  | .ok _ => .ok ()
  | .error e => .error ⟨raw, e⟩

end MessageTemplate
