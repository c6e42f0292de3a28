import MessageTemplate.Template.Basic
import MessageTemplate.Value.Display
/-! Coercion of values before rendering. -/
namespace MessageTemplate

namespace Value

def isNullElement (v : Value) : Bool :=
  match v with
  | .null => true
  | _ => v.isTypedNil

def elementText (v : Value) : String := if v.isNullElement then nullText else v.display

def joinTexts (parts : List String) : String := ", ".intercalate parts

/-- The value a placeholder is rendered with. -/
def coerce : Value → Value
  | .null => .str nullText
  | .list none => .str nullText
  | .list (some xs) => .str (joinTexts (xs.map elementText))
  | .bytes none => .str nullText
  | .bytes (some bs) => .str (joinTexts (bs.map toString))
  | .ints none => .str nullText
  | .ints (some xs) => .str (joinTexts (xs.map toString))
  | .intMap none => .str nullText
  | .nilPointer => .str nullText
  | .nilFunc => .str nullText
  | .nilChan => .str nullText
  | .strings xs => .str (joinTexts xs)
  | .slice xs => .str (joinTexts (xs.map elementText))
  | .array xs => .str (joinTexts (xs.map elementText))
  | .intArray xs => .str (joinTexts (xs.map toString))
  | v => v

end Value

end MessageTemplate
