import MessageTemplate.Value.Display
import MessageTemplate.Numeric.Notation
/-! The runtime values of conditions. -/
namespace MessageTemplate.Condition

/-- Where a list or map came from, which decides the form it is handed back in. -/
inductive Origin where
  | built
  | joined
  | host (v : Value)
deriving Inhabited

/-- A runtime value. -/
inductive CelVal where
  | null
  | bool (b : Bool)
  | int (v : Int)
  | uint (v : Nat)
  | double (x : Binary)
  | string (s : String)
  | bytes (bs : List Nat)
  | timestamp (t : Instant)
  | duration (ns : Int)
  | list (items : List CelVal) (origin : Origin)
  | map (entries : List (CelVal × CelVal)) (origin : Origin)
  | type (name : String)
  | host (v : Value)
deriving Inhabited

def noOverload : String := "no such overload"

def hostKindText : Value → String
  | .number lit => "(json.Number)" ++ lit
  | .int k v => "(" ++ k.name ++ ")" ++ toString v
  | .uint k v => "(" ++ k.name ++ ")" ++ toString v
  | .nilPointer => "(*main.point)<nil>"
  | .nilFunc => "(func())<nil>"
  | .nilChan => "(chan int)<nil>"
  | .point x y => "(main.point)\x7b" ++ toString x ++ " " ++ toString y ++ "\x7d"
  | .month m => "(time.Month)" ++ monthName m
  | .custom c => "(main.formattable)" ++ c.label
  | v => v.display

namespace CelVal

def ofHost (v : Value) : Except String CelVal :=
  let unsupported : Except String CelVal :=
    .error ("unsupported conversion to ref.Val: " ++ hostKindText v)
  match v with
  | .null => .ok .null
  | .str s => .ok (.string s)
  | .bool b => .ok (.bool b)
  | .int k i =>
    if k = .int8 || k = .int16 then unsupported else .ok (.int i)
  | .uint k n =>
    if k = .uint || k = .uint32 || k = .uint64 then .ok (.uint n) else unsupported
  | .float _ x => .ok (.double (x.convert FloatFormat.double))
  | .bytes bs => .ok (.bytes (bs.getD []))
  | .strings xs => .ok (.list (xs.map .string) (.host v))
  | .ints xs => .ok (.list ((xs.getD []).map .int) (.host v))
  | .array xs => .ok (.list (xs.map .host) (.host v))
  | .intArray xs => .ok (.list (xs.map .int) (.host v))
  | .list xs => .ok (.list ((xs.getD []).map .host) (.host v))
  | .slice xs => .ok (.list (xs.map .host) (.host v))
  | .map kvs => .ok (.map (kvs.map fun (k, x) => (.string k, .host x)) (.host v))
  | .intMap kvs => .ok (.map ((kvs.getD []).map fun (k, x) => (.string k, .int x)) (.host v))
  | .time t => .ok (.timestamp t)
  | .duration ns => .ok (.duration ns)
  | _ => unsupported

def force : CelVal → Except String CelVal
  | .host v => ofHost v
  | c => .ok c

def sameKey : CelVal → CelVal → Bool
  | .null, .null => true
  | .bool a, .bool b => a == b
  | .int a, .int b => a == b
  | .uint a, .uint b => a == b
  | .double x, .double y => !x.isNaN && !y.isNaN && Binary.order x y == .eq
  | .string a, .string b => a == b
  | .bytes a, .bytes b => a == b
  | .timestamp a, .timestamp b => a == b
  | .duration a, .duration b => a == b
  | .type a, .type b => a == b
  | _, _ => false

def insertEntries (acc : List (CelVal × CelVal)) : List (CelVal × CelVal) → List (CelVal × CelVal)
  | [] => acc
  | (k, v) :: rest =>
    let acc' := if acc.any (sameKey k ·.1) then acc.map fun e => if sameKey k e.1 then (e.1, v) else e
      else acc ++ [(k, v)]
    insertEntries acc' rest

/-- A list a comprehension builds with one more element at its end. -/
def append (acc v : CelVal) : CelVal :=
  match acc with
  | .list items _ => .list (items ++ [v]) .built
  | _ => .list [v] .built

/-- The name of a value's type. -/
def typeName : CelVal → String
  | .null => "null_type"
  | .bool _ => "bool"
  | .int _ => "int"
  | .uint _ => "uint"
  | .double _ => "double"
  | .string _ => "string"
  | .bytes _ => "bytes"
  | .timestamp _ => "google.protobuf.Timestamp"
  | .duration _ => "google.protobuf.Duration"
  | .list _ _ => "list"
  | .map _ _ => "map"
  | .type _ => "type"
  | .host _ => "dyn"

def hostTypeName : CelVal → String
  | .null => "structpb.NullValue"
  | .bool _ => "bool"
  | .int _ => "int64"
  | .uint _ => "uint64"
  | .double _ => "float64"
  | .string _ => "string"
  | .bytes _ => "[]uint8"
  | .timestamp _ => "time.Time"
  | .duration _ => "time.Duration"
  | .list _ .built => "[]ref.Val"
  | .list _ .joined => "[]interface \x7b\x7d"
  | .list _ (.host v) =>
    match v with
    | .strings _ => "[]string"
    | .ints _ => "[]int"
    | .array xs => "[" ++ toString xs.length ++ "]interface \x7b\x7d"
    | .intArray xs => "[" ++ toString xs.length ++ "]int"
    | .list _ => "format.List"
    | _ => "[]interface \x7b\x7d"
  | .map _ .built | .map _ .joined => "map[ref.Val]ref.Val"
  | .map _ (.host v) =>
    match v with
    | .intMap _ => "map[string]int"
    | _ => "map[string]interface \x7b\x7d"
  | .type _ => "string"
  | .host _ => "interface \x7b\x7d"

def numericOrder : CelVal → CelVal → Option Ordering
  | .int a, .int b => some (compare a b)
  | .uint a, .uint b => some (compare a b)
  | .int a, .uint b => some (compare a (b : Int))
  | .uint a, .int b => some (compare (a : Int) b)
  | .double x, .double y => if x.isNaN || y.isNaN then none else some (Binary.order x y)
  | .int a, .double y =>
    if y.isNaN then none else some (Binary.order (.finite (decide (a < 0)) a.natAbs 0) y)
  | .uint a, .double y => if y.isNaN then none else some (Binary.order (.finite false a 0) y)
  | .double x, .int b =>
    if x.isNaN then none else some (Binary.order x (.finite (decide (b < 0)) b.natAbs 0))
  | .double x, .uint b => if x.isNaN then none else some (Binary.order x (.finite false b 0))
  | _, _ => none

def isNumber : CelVal → Bool
  | .int _ | .uint _ | .double _ => true
  | _ => false

def utf8 (s : String) : List Nat := s.toUTF8.toList.map (·.toNat)

def compareBytes : List Nat → List Nat → Ordering
  | [], [] => .eq
  | [], _ => .lt
  | _, [] => .gt
  | a :: as, b :: bs => if a < b then .lt else if a > b then .gt else compareBytes as bs

def compareInstants (a b : Instant) : Ordering :=
  match compare a.seconds b.seconds with
  | .eq => compare a.nanos b.nanos
  | o => o

mutual
/-- Equality of two values: numbers by value across kinds, other values of the same kind by
content, values of different kinds unequal. Elements that cannot be read do not make two
collections unequal. -/
def equal (fuel : Nat) (a b : CelVal) : Bool :=
  match fuel with
  | 0 => false
  | fuel + 1 =>
    match a.force, b.force with
    | .ok a, .ok b =>
      if a.isNumber && b.isNumber then numericOrder a b == some .eq
      else
        match a, b with
        | .null, .null => true
        | .bool x, .bool y => x == y
        | .string x, .string y => x == y
        | .bytes x, .bytes y => x == y
        | .timestamp x, .timestamp y => compareInstants x y == .eq
        | .duration x, .duration y => x == y
        | .type x, .type y => x == y
        | .list xs _, .list ys _ => xs.length == ys.length && equalItems fuel xs ys
        | .map xs _, .map ys _ => xs.length == ys.length && equalEntries fuel xs ys
        | _, _ => false
    | _, _ => false

def equalItems (fuel : Nat) : List CelVal → List CelVal → Bool
  | x :: xs, y :: ys =>
    let same := match x.force, y.force with
      | .ok _, .ok _ => equal fuel x y
      | _, _ => true
    same && equalItems fuel xs ys
  | _, _ => true

def equalEntries (fuel : Nat) (xs ys : List (CelVal × CelVal)) : Bool :=
  match xs with
  | [] => true
  | (k, v) :: rest =>
    (match lookupIn fuel k ys with
      | some w => equal fuel v w
      | none => false) && equalEntries fuel rest ys

def lookupIn (fuel : Nat) (k : CelVal) : List (CelVal × CelVal) → Option CelVal
  | [] => none
  | (k', v) :: rest => if equal fuel k k' then some v else lookupIn fuel k rest
end

def eqFuel : Nat := 256

/-- The order of two values of comparable kinds, or the error of comparing them. -/
def order (a b : CelVal) : Except String Ordering :=
  if a.isNumber && b.isNumber then
    match numericOrder a b with
    | some o => .ok o
    | none => .error "NaN values cannot be ordered"
  else
    match a, b with
    | .bool x, .bool y => .ok (compare x.toNat y.toNat)
    | .string x, .string y => .ok (compareBytes (utf8 x) (utf8 y))
    | .bytes x, .bytes y => .ok (compareBytes x y)
    | .timestamp x, .timestamp y => .ok (compareInstants x y)
    | .duration x, .duration y => .ok (compare x y)
    | _, _ => .error noOverload

end CelVal

end MessageTemplate.Condition
