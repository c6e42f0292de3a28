/-! JSON documents as a decoder reads them: numbers keep their text, objects their members in
written order. -/
namespace MessageTemplate

/-- A JSON document. Numbers are kept as their literal text. -/
inductive Json where
  | null
  | bool (b : Bool)
  | num (literal : String)
  | str (s : String)
  | arr (items : List Json)
  | obj (members : List (String × Json))
deriving Inhabited, Repr

namespace Json

def hexDigit (n : Nat) : Char :=
  if n < 10 then Char.ofNat (48 + n) else Char.ofNat (87 + n)

def unicodeEscape (n : Nat) : List Char :=
  ['\\', 'u', hexDigit (n / 4096 % 16), hexDigit (n / 256 % 16), hexDigit (n / 16 % 16),
    hexDigit (n % 16)]

def escapeChar (html : Bool) (c : Char) : List Char :=
  if c = '"' then ['\\', '"']
  else if c = '\\' then ['\\', '\\']
  else if c = '\n' then ['\\', 'n']
  else if c = '\r' then ['\\', 'r']
  else if c = '\t' then ['\\', 't']
  else if c.toNat = 8 then ['\\', 'b']
  else if c.toNat = 12 then ['\\', 'f']
  else if c.toNat < 32 then unicodeEscape c.toNat
  else if html && (c = '<' || c = '>' || c = '&') then unicodeEscape c.toNat
  else if c.toNat = 0x2028 || c.toNat = 0x2029 then unicodeEscape c.toNat
  else [c]

/-- A string in double quotes with its characters escaped. -/
def quote (html : Bool) (s : String) : String :=
  String.ofList ('"' :: (s.toList.flatMap (escapeChar html) ++ ['"']))

mutual
/-- The compact text of a document. -/
def render (html : Bool) : Json → String
  | .null => "null"
  | .bool b => if b then "true" else "false"
  | .num n => n
  | .str s => quote html s
  | .arr xs => "[" ++ renderItems html xs ++ "]"
  | .obj kvs => "\x7b" ++ renderMembers html kvs ++ "\x7d"

def renderItems (html : Bool) : List Json → String
  | [] => ""
  | [x] => render html x
  | x :: xs => render html x ++ "," ++ renderItems html xs

def renderMembers (html : Bool) : List (String × Json) → String
  | [] => ""
  | [(k, v)] => quote html k ++ ":" ++ render html v
  | (k, v) :: kvs => quote html k ++ ":" ++ render html v ++ "," ++ renderMembers html kvs
end

/-- The member of an object under a key, the last one when the key repeats. -/
def field? (j : Json) (key : String) : Option Json :=
  match j with
  | .obj kvs => (kvs.reverse.find? (·.1 == key)).map (·.2)
  | _ => none

end Json

end MessageTemplate
