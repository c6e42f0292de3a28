import MessageTemplate.Unicode.Case
/-! Letter case and blank trimming of texts. -/
namespace MessageTemplate.Text

/-- A text in upper case, character by character. -/
def toUpper (s : String) : String :=
  String.ofList (s.toList.map fun c => Char.ofNat (Unicode.upperOf c.toNat))

def toLower (s : String) : String :=
  String.ofList (s.toList.map fun c => Char.ofNat (Unicode.lowerOf c.toNat))

def isSpace (c : Char) : Bool :=
  let n := c.toNat
  (9 ≤ n && n ≤ 13) || n = 32 || n = 0x85 || n = 0xA0 || n = 0x1680 ||
    (0x2000 ≤ n && n ≤ 0x200A) || n = 0x2028 || n = 0x2029 || n = 0x202F || n = 0x205F ||
    n = 0x3000

def trimSpace (s : String) : String :=
  String.ofList ((s.toList.dropWhile isSpace).reverse.dropWhile isSpace).reverse

end MessageTemplate.Text
