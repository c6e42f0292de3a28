import MessageTemplate.Unicode.Category
/-! Quoted text for messages. -/
namespace MessageTemplate.Text

def isPrintable (c : Char) : Bool := c = ' ' || Unicode.visible.contains c.toNat

/-- The upper bits first, `width` hexadecimal digits of `n`. -/
def hexDigits (width n : Nat) : List Char :=
  (List.range width).reverse.map fun i =>
    let d := n / Nat.pow 16 i % 16
    if d < 10 then Char.ofNat (48 + d) else Char.ofNat (87 + d)

def escapeIn (delim : Char) (c : Char) : List Char :=
  if c = delim || c = '\\' then ['\\', c]
  else if isPrintable c then [c]
  else if c.toNat = 7 then ['\\', 'a']
  else if c.toNat = 8 then ['\\', 'b']
  else if c.toNat = 12 then ['\\', 'f']
  else if c = '\n' then ['\\', 'n']
  else if c = '\r' then ['\\', 'r']
  else if c = '\t' then ['\\', 't']
  else if c.toNat = 11 then ['\\', 'v']
  else if c.toNat < 0x80 then '\\' :: 'x' :: hexDigits 2 c.toNat
  else if c.toNat < 0x10000 then '\\' :: 'u' :: hexDigits 4 c.toNat
  else '\\' :: 'U' :: hexDigits 8 c.toNat

/-- A string in double quotes, escaped. -/
def quote (s : String) : String :=
  String.ofList ('"' :: s.toList.flatMap (escapeIn '"') ++ ['"'])

def quoteChar (c : Char) : String :=
  String.ofList ('\'' :: escapeIn '\'' c ++ ['\''])

def leadByte (c : Char) : Nat :=
  let n := c.toNat
  if n < 0x80 then n
  else if n < 0x800 then 0xC0 + n / 64
  else if n < 0x10000 then 0xE0 + n / 4096
  else 0xF0 + n / 262144

def quoteLeadByte (c : Char) : String :=
  quoteChar (Char.ofNat (leadByte c))

/-- The number of bytes of the UTF-8 encoding of a character. -/
def byteWidth (c : Char) : Nat :=
  if c.toNat < 0x80 then 1 else if c.toNat < 0x800 then 2 else if c.toNat < 0x10000 then 3
  else 4

end MessageTemplate.Text
