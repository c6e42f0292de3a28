import MessageTemplate.Numeric.Binary
import MessageTemplate.Time.Instant
/-! The values that templates are rendered with. -/
namespace MessageTemplate

/-- The signed machine integer kinds; `int` is 64 bits wide. -/
inductive IntKind where
  | int | int8 | int16 | int32 | int64
deriving DecidableEq, Repr

/-- The unsigned machine integer kinds; `uint` and `uintptr` are 64 bits wide. -/
inductive UIntKind where
  | uint | uint8 | uint16 | uint32 | uint64 | uintptr
deriving DecidableEq, Repr

/-- The two floating-point kinds. -/
inductive FloatKind where
  | float32 | float64
deriving DecidableEq, Repr

namespace IntKind

def bits : IntKind → Nat
  | .int => 64 | .int8 => 8 | .int16 => 16 | .int32 => 32 | .int64 => 64

def name : IntKind → String
  | .int => "int" | .int8 => "int8" | .int16 => "int16" | .int32 => "int32" | .int64 => "int64"

end IntKind

namespace UIntKind

def bits : UIntKind → Nat
  | .uint8 => 8 | .uint16 => 16 | .uint32 => 32 | _ => 64

def name : UIntKind → String
  | .uint => "uint" | .uint8 => "uint8" | .uint16 => "uint16" | .uint32 => "uint32"
  | .uint64 => "uint64" | .uintptr => "uintptr"

end UIntKind

namespace FloatKind

/-- The binary format of the kind. -/
def format : FloatKind → FloatFormat
  | .float32 => FloatFormat.single
  | .float64 => FloatFormat.double

def name : FloatKind → String
  | .float32 => "float32"
  | .float64 => "float64"

end FloatKind

/-- A value that writes itself for a format specifier, and may refuse one. -/
structure SelfFormatting where
  label : String
  formatAs : String → Except String String

instance : Inhabited SelfFormatting := ⟨⟨"", fun _ => .ok ""⟩⟩

/-- A dynamic value. Sequences and maps that may be empty references carry an `Option`:
`none` is the typed nil. Map members are kept sorted by key. -/
inductive Value where
  | null
  | str (s : String)
  | bool (b : Bool)
  | number (literal : String)
  | int (kind : IntKind) (v : Int)
  | uint (kind : UIntKind) (v : Nat)
  | float (kind : FloatKind) (x : Binary)
  | bytes (bs : Option (List Nat))
  | strings (xs : List String)
  | ints (xs : Option (List Int))
  | array (xs : List Value)
  | intArray (xs : List Int)
  | list (xs : Option (List Value))
  | slice (xs : List Value)
  | map (members : List (String × Value))
  | intMap (members : Option (List (String × Int)))
  | nilPointer
  | nilFunc
  | nilChan
  | point (x y : Int)
  | time (t : Instant)
  | duration (ns : Int)
  | month (m : Int)
  | custom (c : SelfFormatting)
deriving Inhabited

/-- Map members with one entry per key, the last one written winning, in key order: the form
every map is kept in. -/
def canonicalMembers {α : Type} (kvs : List (String × α)) : List (String × α) :=
  let last := kvs.foldl (fun acc kv => kv :: acc.filter (·.1 != kv.1)) []
  last.mergeSort (fun a b => decide (a.1 ≤ b.1))

namespace Value

def isTypedNil : Value → Bool
  | .bytes none | .ints none | .list none | .intMap none => true
  | .nilPointer | .nilFunc | .nilChan => true
  | _ => false

end Value

end MessageTemplate
