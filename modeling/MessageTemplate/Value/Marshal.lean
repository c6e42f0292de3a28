import MessageTemplate.Value.Basic
import MessageTemplate.Json.Basic
import MessageTemplate.Numeric.Notation
import MessageTemplate.Time.Layout
import MessageTemplate.Text.Base64
/-! Values as JSON documents. -/
namespace MessageTemplate

namespace Json

def allDigits (cs : List Char) : Bool := !cs.isEmpty && cs.all Char.isDigit

def isExponentPart : List Char → Bool
  | '+' :: ds => allDigits ds
  | '-' :: ds => allDigits ds
  | ds => allDigits ds

def isNumberTail (cs : List Char) : Bool :=
  let afterFraction :=
    match cs with
    | '.' :: rest =>
      let ds := rest.takeWhile Char.isDigit
      if ds.isEmpty then none else some (rest.drop ds.length)
    | _ => some cs
  match afterFraction with
  | none => false
  | some [] => true
  | some (e :: rest) => (e = 'e' || e = 'E') && isExponentPart rest

def isNumberLiteral (s : String) : Bool :=
  let cs := match s.toList with
    | '-' :: rest => rest
    | cs => cs
  match cs with
  | '0' :: rest => isNumberTail rest
  | c :: rest =>
    c.isDigit && isNumberTail (rest.drop (rest.takeWhile Char.isDigit).length)
  | [] => false

end Json

namespace Binary

def microOf (f : FloatFormat) : Binary := roundRatio f false 1 1000000

def zettaOf (f : FloatFormat) : Binary := roundRatio f false (Nat.pow 10 21) 1

def trimExponent (cs : List Char) : List Char :=
  match cs.reverse with
  | d :: '0' :: '-' :: 'e' :: rest => (d :: '-' :: 'e' :: rest).reverse
  | _ => cs

def jsonText? (f : FloatFormat) (x : Binary) : Option String :=
  match x with
  | .finite _ m _ =>
    let a := x.abs
    if m ≠ 0 && (a.lt (microOf f) || a.le (zettaOf f) && !(a.lt (zettaOf f)) || (zettaOf f).lt a)
    then some (String.ofList (trimExponent (x.toText f 'e' (-1)).toList))
    else some (x.toText f 'f' (-1))
  | _ => none

end Binary

namespace Instant

def jsonText? (t : Instant) : Option String :=
  let y := t.civil.year
  if y < 0 || y ≥ 10000 || t.offset.natAbs ≥ 24 * 3600 then none else some t.toRfc3339

end Instant

namespace Value

mutual
def toJson? : Value → Option Json
  | .null => some .null
  | .str s => some (.str s)
  | .bool b => some (.bool b)
  | .number lit =>
    let lit := if lit.isEmpty then "0" else lit
    if Json.isNumberLiteral lit then some (.num lit) else none
  | .int _ v => some (.num (toString v))
  | .uint _ v => some (.num (toString v))
  | .float k x => (x.jsonText? k.format).map .num
  | .bytes none => some .null
  | .bytes (some bs) => some (.str (Text.base64 bs))
  | .strings xs => some (.arr (xs.map .str))
  | .ints none => some .null
  | .ints (some xs) => some (.arr (xs.map fun v => .num (toString v)))
  | .array xs => (toJsonAll xs).map .arr
  | .intArray xs => some (.arr (xs.map fun v => .num (toString v)))
  | .list none => some .null
  | .list (some xs) => (toJsonAll xs).map .arr
  | .slice xs => (toJsonAll xs).map .arr
  | .map kvs => (toJsonMembers kvs).map fun ms => .obj (canonicalMembers ms)
  | .intMap none => some .null
  | .intMap (some kvs) =>
    some (.obj (canonicalMembers (kvs.map fun (k, v) => (k, .num (toString v)))))
  | .nilPointer => some .null
  | .nilFunc => none
  | .nilChan => none
  | .point x y => some (.obj [("X", .num (toString x)), ("Y", .num (toString y))])
  | .time t => t.jsonText?.map .str
  | .duration ns => some (.num (toString ns))
  | .month m => some (.num (toString m))
  | .custom c => some (.str c.label)

def toJsonAll : List Value → Option (List Json)
  | [] => some []
  | v :: vs => do
    let j ← toJson? v
    let js ← toJsonAll vs
    pure (j :: js)

def toJsonMembers : List (String × Value) → Option (List (String × Json))
  | [] => some []
  | (k, v) :: kvs => do
    let j ← toJson? v
    let js ← toJsonMembers kvs
    pure ((k, j) :: js)
end

end Value

end MessageTemplate
