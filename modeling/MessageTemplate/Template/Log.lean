import MessageTemplate.Template.Pairs
import MessageTemplate.Value.Marshal
import MessageTemplate.Value.Display
/-! Bound values as one structured log line. -/
namespace MessageTemplate

namespace LogLine

def escapeChar (c : Char) : List Char :=
  if c = '"' then ['\\', '"']
  else if c = '\\' then ['\\', '\\']
  else if c = '\n' then ['\\', 'n']
  else if c = '\r' then ['\\', 'r']
  else if c = '\t' then ['\\', 't']
  else if c.toNat < 32 then
    ['\\', 'u', '0', '0', Json.hexDigit (c.toNat / 16), Json.hexDigit (c.toNat % 16)]
  else [c]

/-- A log text in double quotes. -/
def quote (s : String) : String :=
  String.ofList ('"' :: (s.toList.flatMap escapeChar ++ ['"']))

def valueText : Value → String
  | .null => quote nullText
  | .str s => quote s
  | v =>
    match v.toJson? with
    | some j => j.render false
    | none => quote v.display

/-- One field of the line. -/
def field (p : Pair) : String := quote p.name ++ ":" ++ valueText p.value

end LogLine

def Bound.logLine (b : Bound) : String :=
  "\x7b\"values\":\x7b" ++ ",".intercalate (b.pairs.map LogLine.field) ++ "\x7d\x7d"

end MessageTemplate
