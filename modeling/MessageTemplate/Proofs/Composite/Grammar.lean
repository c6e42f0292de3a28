import MessageTemplate.Composite.Format
/-! The grammar of composite format texts, written as pieces. -/
namespace MessageTemplate.Composite

/-- A piece of literal text: a character other than a brace, or a doubled brace. -/
inductive Token where
  | plain (c : Char) (ne_open : c ≠ '{') (ne_close : c ≠ '}')
  | openBrace
  | closeBrace

namespace Token

/-- How a token is written. -/
def spell : Token → List Char
  | .plain c _ _ => [c]
  | .openBrace => ['{', '{']
  | .closeBrace => ['}', '}']

/-- The character a token stands for. -/
def char : Token → Char
  | .plain c _ _ => c
  | .openBrace => '{'
  | .closeBrace => '}'

end Token

/-- How a run of tokens is written. -/
def spellTokens (ts : List Token) : List Char := ts.flatMap Token.spell

/-- The value of a digit character. -/
def digitValue (c : Char) : Nat := c.toNat - 48

/-- The value of decimal digits read after the value `acc`. -/
def digitsValue (acc : Nat) (ds : List Char) : Nat := ds.foldl (fun v c => v * 10 + digitValue c) acc

/-- A decimal numeral as written: a nonempty run of digits. -/
structure Numeral where
  digits : List Char
  ne_nil : digits ≠ []
  all_digit : ∀ c ∈ digits, c.isDigit

/-- The value of a numeral. -/
def Numeral.value (n : Numeral) : Nat := digitsValue 0 n.digits

/-- `n` blanks. -/
def blanks (n : Nat) : List Char := List.replicate n ' '

/-- The alignment part of an item as written: `,`, blanks, an optional `-`, the width, blanks. -/
structure AlignmentText where
  leading : Nat
  negative : Bool
  width : Numeral
  trailing : Nat

/-- An item as written after its opening brace: the index, blanks, the alignment part and the
format part, if any. -/
structure ItemText where
  index : Numeral
  blanks : Nat
  alignment : Option AlignmentText
  format : Option (List Token)

/-- How an alignment part is written. -/
def spellAlignment : Option AlignmentText → List Char
  | none => []
  | some a =>
    ',' :: blanks a.leading ++ (if a.negative then ['-'] else []) ++ a.width.digits ++
      blanks a.trailing

/-- How a format part is written. -/
def spellFormat : Option (List Token) → List Char
  | none => []
  | some ts => ':' :: spellTokens ts

/-- The signed width of an alignment part; 0 when there is none. -/
def alignmentValue : Option AlignmentText → Int
  | none => 0
  | some a => if a.negative then -(a.width.value : Int) else a.width.value

/-- The format an item passes to its argument, with doubled braces undoubled. -/
def formatText : Option (List Token) → String
  | none => ""
  | some ts => String.ofList (ts.map Token.char)

namespace ItemText

/-- How an item is written after its opening brace, its closing brace included. -/
def spell (it : ItemText) : List Char :=
  it.index.digits ++ Composite.blanks it.blanks ++ spellAlignment it.alignment ++
    spellFormat it.format ++ ['}']

/-- The item an item text denotes. -/
def toItem (it : ItemText) : Item := ⟨it.index.value, alignmentValue it.alignment, formatText it.format⟩

/-- The numerals of an item stay below the limit. -/
def InBounds (it : ItemText) : Prop :=
  it.index.value < limit ∧ ∀ a ∈ it.alignment, a.width.value < limit

end ItemText

/-- A piece of a composite text: a token or an item. -/
inductive Piece where
  | token (t : Token)
  | item (it : ItemText)

namespace Piece

/-- How a piece is written. -/
def spell : Piece → List Char
  | .token t => t.spell
  | .item it => '{' :: it.spell

/-- Whether a piece is an item with a format. -/
def hasFormat : Piece → Bool
  | .token _ => false
  | .item it => it.format.isSome

/-- A piece may stand before another unless it is an item with a format and the other is `}}`,
which the format would take. -/
def CanPrecede (p q : Piece) : Prop := p.hasFormat = true → q ≠ .token .closeBrace

section
variable {α : Type} (args : List α) (formatArg : α → String → Except Standard.SpecError String)

/-- What a piece renders as: a token as its character, an item as its argument formatted with
its format and padded to its alignment, provided its numerals are in bounds, its index names an
argument, and the argument accepts the format. -/
inductive Renders : Piece → String → Prop
  | token (t : Token) : Renders (.token t) (String.singleton t.char)
  | item (it : ItemText) (a : α) (text : String) (bounds : it.InBounds)
      (arg : args[it.index.value]? = some a) (formatted : formatArg a it.toItem.spec = .ok text) :
      Renders (.item it) (pad text it.toItem.alignment)

end

end Piece

/-- How a list of pieces is written. -/
def spellPieces (ps : List Piece) : List Char := ps.flatMap Piece.spell

@[simp] theorem spellTokens_nil : spellTokens [] = [] := rfl

@[simp] theorem spellTokens_cons (t : Token) (ts : List Token) :
    spellTokens (t :: ts) = t.spell ++ spellTokens ts := rfl

@[simp] theorem spellPieces_nil : spellPieces [] = [] := rfl

@[simp] theorem spellPieces_cons (p : Piece) (ps : List Piece) :
    spellPieces (p :: ps) = p.spell ++ spellPieces ps := rfl

@[simp] theorem digitsValue_nil (acc : Nat) : digitsValue acc [] = acc := rfl

@[simp] theorem length_blanks (n : Nat) : (blanks n).length = n := List.length_replicate

theorem blanks_succ (n : Nat) : blanks (n + 1) = ' ' :: blanks n := rfl

@[simp] theorem digitsValue_cons (acc : Nat) (c : Char) (ds : List Char) :
    digitsValue acc (c :: ds) = digitsValue (acc * 10 + digitValue c) ds := by
  simp only [digitsValue, List.foldl_cons]

/-- Reading more digits never lowers the value. -/
theorem le_digitsValue (acc : Nat) (ds : List Char) : acc ≤ digitsValue acc ds := by
  induction ds generalizing acc with
  | nil => exact Nat.le_refl acc
  | cons c ds ih =>
    calc acc ≤ acc * 10 + digitValue c := by omega
      _ ≤ digitsValue (acc * 10 + digitValue c) ds := ih _

/-- The first character of a piece: a brace exactly for escapes and items. -/
theorem Piece.spell_eq_cons (p : Piece) : ∃ c cs, p.spell = c :: cs := by
  cases p with
  | token t => cases t <;> exact ⟨_, _, rfl⟩
  | item it => exact ⟨_, _, rfl⟩

/-- Only `}}` starts with a closing brace. -/
theorem Piece.eq_closeBrace_of_spell (p : Piece) (cs : List Char) (h : p.spell = '}' :: cs) :
    p = .token .closeBrace := by
  cases p with
  | token t =>
    cases t with
    | plain c _ hc => simp only [spell, Token.spell, List.cons.injEq] at h; exact absurd h.1 hc
    | openBrace => simp [spell, Token.spell] at h
    | closeBrace => rfl
  | item it => simp [spell] at h

end MessageTemplate.Composite
