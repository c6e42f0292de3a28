import MessageTemplate.Value.Display
import MessageTemplate.Numeric.Parse
/-! How values look to handlebars templates. -/
namespace MessageTemplate.Value

/-- The type name of a value, as helper argument errors name it. -/
def typeName : Value → String
  | .null => "<nil>"
  | .str _ => "string"
  | .bool _ => "bool"
  | .number _ => "json.Number"
  | .int k _ => k.name
  | .uint k _ => k.name
  | .float k _ => k.name
  | .bytes _ => "[]uint8"
  | .strings _ => "[]string"
  | .ints _ => "[]int"
  | .array xs => "[" ++ toString xs.length ++ "]interface \x7b\x7d"
  | .intArray xs => "[" ++ toString xs.length ++ "]int"
  | .list _ => "format.List"
  | .slice _ => "[]interface \x7b\x7d"
  | .map _ => "map[string]interface \x7b\x7d"
  | .intMap _ => "map[string]int"
  | .nilPointer => "*main.point"
  | .nilFunc => "func()"
  | .nilChan => "chan int"
  | .point .. => "main.point"
  | .time _ => "time.Time"
  | .duration _ => "time.Duration"
  | .month _ => "time.Month"
  | .custom _ => "main.formattable"

/-- A value that is not text, marked with its type. -/
def marked (type text : String) : String := "%!s(" ++ type ++ "=" ++ text ++ ")"

def bytesText (bs : List Nat) : String :=
  match String.fromUTF8? (ByteArray.mk (bs.map UInt8.ofNat).toArray) with
  | some s => s
  | none => String.ofList (bs.map fun b => if b < 0x80 then Char.ofNat b else Char.ofNat 0xFFFD)

mutual
def stringForm : Value → String
  | .null => "%!s(<nil>)"
  | .str s => s
  | .number lit => lit
  | .bool b => marked "bool" (toString b)
  | .int k v => marked k.name (toString v)
  | .uint k v => marked k.name (toString v)
  | .float k x => marked k.name (floatDisplay k x)
  | .bytes bs => bytesText (bs.getD [])
  | .strings xs => bracketed xs
  | .ints xs => bracketed ((xs.getD []).map fun v => marked "int" (toString v))
  | .array xs => bracketed (stringForms xs)
  | .slice xs => bracketed (stringForms xs)
  | .list (some xs) => bracketed (stringForms xs)
  | .list none => "[]"
  | .intArray xs => bracketed (xs.map fun v => marked "int" (toString v))
  | .map kvs => mapText (stringFormMembers kvs)
  | .intMap kvs => mapText ((kvs.getD []).map fun (k, v) => (k, marked "int" (toString v)))
  | .nilPointer => marked "*main.point" "<nil>"
  | .nilFunc => marked "func()" "<nil>"
  | .nilChan => marked "chan int" "<nil>"
  | .point x y => "\x7b" ++ marked "int" (toString x) ++ " " ++ marked "int" (toString y) ++ "\x7d"
  | .time t => t.display
  | .duration ns => Duration.display ns
  | .month m => monthName m
  | .custom c => c.label

def stringForms : List Value → List String
  | [] => []
  | .null :: vs => "<nil>" :: stringForms vs
  | v :: vs => stringForm v :: stringForms vs

def stringFormMembers : List (String × Value) → List (String × String)
  | [] => []
  | (k, .null) :: kvs => (k, "<nil>") :: stringFormMembers kvs
  | (k, v) :: kvs => (k, stringForm v) :: stringFormMembers kvs
end

mutual
def printText : Value → String
  | .null => ""
  | .str s => s
  | .number lit => lit
  | .bool b => toString b
  | .int _ v => toString v
  | .duration ns => toString ns
  | .month m => toString m
  | .float _ x => (x.convert FloatFormat.double).toText FloatFormat.double 'f' (-1)
  | .bytes bs => String.join ((bs.getD []).map fun b => marked "uint8" (toString b))
  | .strings xs => String.join xs
  | .ints xs => String.join ((xs.getD []).map toString)
  | .intArray xs => String.join (xs.map toString)
  | .array xs => printTexts xs
  | .slice xs => printTexts xs
  | .list (some xs) => printTexts xs
  | .list none => ""
  | v => stringForm v

def printTexts : List Value → String
  | [] => ""
  | v :: vs => printText v ++ printTexts vs
end

def templateText : Value → Except String String
  | .nilFunc => .error "Can't print value: %!q(func()=<nil>)"
  | .nilChan => .error "Can't print value: %!q(chan int=<nil>)"
  | v => .ok v.printText

def truthy : Value → Bool
  | .null => false
  | .str s => !s.isEmpty
  | .number lit => !lit.isEmpty
  | .bool b => b
  | .int _ v => v ≠ 0
  | .uint _ v => v ≠ 0
  | .float _ x => !x.isZero
  | .bytes bs => !(bs.getD []).isEmpty
  | .strings xs => !xs.isEmpty
  | .ints xs => !(xs.getD []).isEmpty
  | .array xs => !xs.isEmpty
  | .intArray xs => !xs.isEmpty
  | .list xs => !(xs.getD []).isEmpty
  | .slice xs => !xs.isEmpty
  | .map kvs => !kvs.isEmpty
  | .intMap kvs => !(kvs.getD []).isEmpty
  | .nilPointer | .nilFunc | .nilChan => false
  | .point .. | .time _ | .custom _ => true
  | .duration ns => ns ≠ 0
  | .month m => m ≠ 0

def elements? : Value → Option (List Value)
  | .bytes bs => some ((bs.getD []).map fun b => .uint .uint8 b)
  | .strings xs => some (xs.map .str)
  | .ints xs => some ((xs.getD []).map (.int .int))
  | .array xs => some xs
  | .intArray xs => some (xs.map (.int .int))
  | .list xs => some (xs.getD [])
  | .slice xs => some xs
  | _ => none

/-- The value a name selects inside a value: a map member, a sequence element by decimal
index, or a field of a point. -/
def field? (v : Value) (name : String) : Option Value :=
  match v with
  | .map kvs => (kvs.reverse.find? (·.1 = name)).map (·.2)
  | .intMap (some kvs) => (kvs.reverse.find? (·.1 = name)).map fun (_, n) => .int .int n
  | .point x y => if name = "X" then some (.int .int x) else if name = "Y" then some (.int .int y) else none
  | _ =>
    match v.elements?, Numeric.readSigned 64 name with
    | some xs, .ok i => if 0 ≤ i then xs[i.toNat]? else none
    | _, _ => none

end MessageTemplate.Value

namespace MessageTemplate.Handlebars

def escapeHtml (s : String) : String :=
  String.join (s.toList.map fun c =>
    if c = '&' then "&amp;" else if c = '<' then "&lt;" else if c = '>' then "&gt;"
    else if c = '"' then "&quot;" else if c = '\'' then "&apos;" else String.singleton c)

end MessageTemplate.Handlebars
