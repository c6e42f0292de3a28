import MessageTemplate.Value.Basic
import MessageTemplate.Numeric.Notation
import MessageTemplate.Time.Layout
import MessageTemplate.Time.Duration
/-! The default text of a value. -/
namespace MessageTemplate

def monthName (m : Int) : String :=
  if 1 ≤ m && m ≤ 12 then Calendar.monthNames.getD (m.toNat - 1) ""
  else "%!Month(" ++ toString m ++ ")"

def floatDisplay (k : FloatKind) (x : Binary) : String := x.toText k.format 'g' (-1)

def bracketed (parts : List String) : String := "[" ++ " ".intercalate parts ++ "]"

def mapText (parts : List (String × String)) : String :=
  "map[" ++ " ".intercalate (parts.map fun (k, v) => k ++ ":" ++ v) ++ "]"

namespace Value

mutual
/-- The default text of a value. -/
def display : Value → String
  | .null => "<nil>"
  | .str s => s
  | .bool b => if b then "true" else "false"
  | .number lit => lit
  | .int _ v => toString v
  | .uint _ v => toString v
  | .float k x => floatDisplay k x
  | .bytes bs => bracketed ((bs.getD []).map toString)
  | .strings xs => bracketed xs
  | .ints xs => bracketed ((xs.getD []).map toString)
  | .array xs => bracketed (displayAll xs)
  | .intArray xs => bracketed (xs.map toString)
  | .list (some xs) => bracketed (displayAll xs)
  | .list none => "[]"
  | .slice xs => bracketed (displayAll xs)
  | .map kvs => mapText (displayMembers kvs)
  | .intMap kvs => mapText ((kvs.getD []).map fun (k, v) => (k, toString v))
  | .nilPointer => "<nil>"
  | .nilFunc => "<nil>"
  | .nilChan => "<nil>"
  | .point x y => "\x7b" ++ toString x ++ " " ++ toString y ++ "\x7d"
  | .time t => t.display
  | .duration ns => Duration.display ns
  | .month m => monthName m
  | .custom c => c.label

def displayAll : List Value → List String
  | [] => []
  | v :: vs => display v :: displayAll vs

def displayMembers : List (String × Value) → List (String × String)
  | [] => []
  | (k, v) :: kvs => (k, display v) :: displayMembers kvs
end

end Value

end MessageTemplate
