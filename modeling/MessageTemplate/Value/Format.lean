import MessageTemplate.Value.Display
import MessageTemplate.Numeric.Standard
import MessageTemplate.Numeric.Parse
/-! One value formatted with a specifier, as a placeholder's value is. -/
namespace MessageTemplate

def timePattern? (spec : String) : Option String :=
  if spec = "d" then some "01/02/2006"
  else if spec = "D" then some "Monday, 02 January 2006"
  else if spec = "t" then some "15:04"
  else if spec = "T" then some "15:04:05"
  else if spec = "g" then some "01/02/2006 15:04"
  else if spec = "G" then some "01/02/2006 15:04:05"
  else if spec = "o" || spec = "O" then some "2006-01-02T15:04:05.0000000Z07:00"
  else if spec = "s" then some "2006-01-02T15:04:05"
  else if spec = "u" then some "2006-01-02 15:04:05Z"
  else none

/-- An instant with a specifier: the general pattern when none, the universal pattern on the
UTC clock for `u`, a named pattern, or the specifier itself as a layout. -/
def Instant.formatWith (t : Instant) (spec : String) : String :=
  if spec.isEmpty then t.format "01/02/2006 15:04:05"
  else if spec = "u" then t.toUTC.format "2006-01-02 15:04:05Z"
  else match timePattern? spec with
    | some layout => t.format layout
    | none => t.format spec

namespace Value

/-- A value formatted with a specifier. -/
def formatWith (v : Value) (spec : String) : Except Standard.SpecError String :=
  match v with
  | .null => .ok ""
  | .custom c =>
    match c.formatAs spec with
    | .ok s => .ok s
    | .error r => .error (.refused r)
  | .str s => .ok s
  | .time t => .ok (t.formatWith spec)
  | .number lit =>
    match Numeric.readSigned 64 lit with
    | .ok i => Standard.formatInt 64 i spec
    | .error _ =>
      match Numeric.readFloat FloatFormat.double lit with
      | .ok x => Standard.formatFloat x spec
      | .error _ => .ok lit
  | .duration _ => .ok v.display
  | .month _ => .ok v.display
  | .int k i => Standard.formatInt k.bits i spec
  | .uint _ n => Standard.formatUInt n spec
  | .float k x =>
    if spec.isEmpty && k = .float32 then .ok (floatDisplay .float32 x)
    else Standard.formatFloat (x.convert FloatFormat.double) spec
  | _ => .ok v.display

end Value

end MessageTemplate
