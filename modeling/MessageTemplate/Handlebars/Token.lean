import MessageTemplate.Text.Quote
/-! The tokens of handlebars templates. -/
namespace MessageTemplate.Handlebars

/-- The kinds of tokens. -/
inductive TokenKind where
  | error | eof | content | comment
  | mustache | close | rawMustache | rawClose
  | block | endBlock | rawBlock | rawBlockClose | rawBlockEnd
  | paramsOpen | paramsClose
  | inverse | inverseOpen | inverseChain | partialOpen
  | sexprOpen | sexprClose
  | id | equals | string | number | boolean | data | sep
deriving DecidableEq, Repr, Inhabited

/-- The name of a token kind in messages. -/
def TokenKind.name : TokenKind → String
  | .error => "Error" | .eof => "EOF" | .content => "Content" | .comment => "Comment"
  | .mustache => "Open" | .close => "Close" | .rawMustache => "OpenUnescaped"
  | .rawClose => "CloseUnescaped" | .block => "OpenBlock" | .endBlock => "OpenEndBlock"
  | .rawBlock => "OpenRawBlock" | .rawBlockClose => "CloseRawBlock"
  | .rawBlockEnd => "OpenEndRawBlock" | .paramsOpen => "OpenBlockParams"
  | .paramsClose => "CloseBlockParams" | .inverse => "Inverse" | .inverseOpen => "OpenInverse"
  | .inverseChain => "OpenInverseChain" | .partialOpen => "OpenPartial" | .sexprOpen => "OpenSexpr"
  | .sexprClose => "CloseSexpr" | .id => "ID" | .equals => "Equals" | .string => "String"
  | .number => "Number" | .boolean => "Boolean" | .data => "Data" | .sep => "Sep"

/-- A token: its kind, its text (for a string, the text between the quotes with escaped quotes
resolved; for an error, the message), its byte offset and its line. -/
structure Token where
  kind : TokenKind
  text : String
  pos : Nat
  line : Nat
deriving Repr, Inhabited

/-- A token as messages show it: the end of input plainly, others as their kind and their
quoted text, a text longer than ten bytes cut to ten characters and marked with dots. -/
def Token.describe (t : Token) : String :=
  match t.kind with
  | .eof => "EOF"
  | .error => "Error\x7b" ++ Text.quote t.text ++ "\x7d"
  | k =>
    let shown :=
      if t.text.utf8ByteSize > 10 then Text.quote (String.ofList (t.text.toList.take 10)) ++ "..."
      else Text.quote t.text
    k.name ++ "\x7b" ++ shown ++ "\x7d"

end MessageTemplate.Handlebars
