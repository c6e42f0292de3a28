import MessageTemplate.Value.Basic
import MessageTemplate.Numeric.Notation
/-! The syntax tree of handlebars templates. -/
namespace MessageTemplate.Handlebars

/-- Whether the white space before a tag (`before`) and after it (`after`) is stripped. -/
structure Strip where
  before : Bool := false
  after : Bool := false
deriving Inhabited

def Strip.ofTags (opening closing : String) : Strip :=
  let o := opening.toList
  let c := closing.toList
  ⟨o[2]? = some '~', c.reverse[2]? = some '~'⟩

def Strip.ofTag (tag : String) : Strip := Strip.ofTags tag tag

/-- The operands of calls. -/
inductive Operand where
  | path (pos line : Nat) (data : Bool) (original : String) (depth : Nat) (anchored : Bool)
      (parts : List String)
  | str (pos line : Nat) (value : String)
  | num (pos line : Nat) (value : Binary) (isInt : Bool)
  | bool (pos line : Nat) (value : Bool)
  | sub (pos line : Nat) (head : Operand) (params : List Operand) (hash : List (String × Operand))
deriving Inhabited

def numberText (x : Binary) : String :=
  (if x.lt Binary.zero then "-" else "") ++ x.abs.toText FloatFormat.double 'f' (-1)

def wordOfFloat (x : Binary) : Int :=
  match x.truncInt? with
  | some i => if -(Nat.pow 2 63 : Int) ≤ i && i < (Nat.pow 2 63 : Int) then i else -(Nat.pow 2 63 : Int)
  | none => -(Nat.pow 2 63 : Int)

namespace Operand

def line : Operand → Nat
  | .path _ l .. | .str _ l _ | .num _ l .. | .bool _ l _ | .sub _ l .. => l

/-- An operand as messages show it. -/
def describe : Operand → String
  | .path pos _ _ original .. => "Path\x7bOriginal:'" ++ original ++ "', Pos:" ++ toString pos ++ "\x7d"
  | .str pos _ v => "String\x7bValue:'" ++ v ++ "', Pos:" ++ toString pos ++ "\x7d"
  | .num pos _ x _ => "Number\x7bValue:" ++ numberText x ++ ", Pos:" ++ toString pos ++ "\x7d"
  | .bool pos _ b => "Boolean\x7bValue:" ++ toString b ++ ", Pos:" ++ toString pos ++ "\x7d"
  | .sub pos _ head .. => "Sexp\x7bPath:" ++ describe head ++ ", Pos:" ++ toString pos ++ "\x7d"

def literalText? : Operand → Option String
  | .str _ _ v => some v
  | .bool _ _ b => some (toString b)
  | .num _ _ x _ => some (numberText x)
  | _ => none

def blockName? : Operand → Option String
  | .path _ _ _ original .. =>
    let cs := original.toList
    if cs.length ≥ 2 && cs.head? = some '[' && cs.getLast? = some ']' then
      some (String.ofList ((cs.drop 1).take (cs.length - 2)))
    else some original
  | o => o.literalText?

end Operand

/-- A call: where it starts, its head, its positional parameters and its named ones. -/
structure Call where
  pos : Nat
  head : Operand
  params : List Operand
  hash : List (String × Operand)
deriving Inhabited

/-- A call as messages show it. -/
def Call.describe (c : Call) : String :=
  "Expr\x7bPath:" ++ c.head.describe ++ ", Pos:" ++ toString c.pos ++ "\x7d"

def Call.helperName? (c : Call) : Option String :=
  match c.head with
  | .path _ _ false _ 0 false [name] => some name
  | _ => none

/-- The statements of templates. -/
inductive Node where
  | content (pos line : Nat) (original value : String) (rightStripped leftStripped : Bool)
  | comment (pos line : Nat) (strip : Strip)
  | mustache (pos line : Nat) (call : Call) (raw : Bool) (strip : Strip)
  | partialCall (pos line : Nat) (name : Operand) (params : List Operand) (strip : Strip)
  | block (pos line : Nat) (call : Call) (body : Option (List Node)) (bound : List String)
      (inverse : Option (List Node)) (chained : Bool) (openStrip closeStrip inverseStrip : Strip)
deriving Inhabited

def partialText (pos : Nat) (name : Operand) : String :=
  "Partial\x7bName:" ++ name.describe ++ ", Pos:" ++ toString pos ++ "\x7d"

end MessageTemplate.Handlebars
