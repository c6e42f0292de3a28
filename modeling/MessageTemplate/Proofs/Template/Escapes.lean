import MessageTemplate.Proofs.Template.Placeholders
import MessageTemplate.Proofs.Composite.Accepts
import MessageTemplate.Template.Pairs
/-! Escaped text. -/
namespace MessageTemplate

namespace Composite

/-- The token a character is written as outside an item. -/
def Token.ofChar (c : Char) : Token :=
  if ho : c = '{' then .openBrace else if hc : c = '}' then .closeBrace else .plain c ho hc

theorem Token.char_ofChar (c : Char) : (Token.ofChar c).char = c := by
  unfold Token.ofChar
  split
  case isTrue ho => exact ho.symm
  case isFalse =>
    split
    case isTrue hc => exact hc.symm
    case isFalse => rfl

section
variable {α : Type} (args : List α) (formatArg : α → String → Except Standard.SpecError String)

theorem formatFrom_spellTokens (ts : List Token) (out : String) (offset : Nat) :
    formatFrom args formatArg out offset (spellTokens ts) =
      .ok (out ++ String.ofList (ts.map Token.char)) := by
  induction ts generalizing out offset with
  | nil => simp [formatFrom]
  | cons t ts ih =>
    obtain ⟨offset', h⟩ := formatFrom_token args formatArg t out offset (spellTokens ts)
    rw [spellTokens_cons, h, ih, List.map_cons, String.ofList_cons, String.append_assoc]

end

end Composite

namespace Template

open Composite

/-- The written form of one character inside a quoted string. -/
def escapeChar (c : Char) : List Char := if c = '{' ∨ c = '}' then [c, c] else [c]

/-- A text with every brace doubled. -/
def escapeBraces (s : String) : String := String.ofList (s.toList.flatMap escapeChar)

theorem spell_ofChar (c : Char) : (Token.ofChar c).spell = escapeChar c := by
  unfold Token.ofChar escapeChar
  by_cases ho : c = '{'
  · subst ho
    rfl
  · by_cases hc : c = '}'
    · subst hc
      rfl
    · simp [ho, hc, Token.spell]

theorem escapeBraces_toList (s : String) :
    (escapeBraces s).toList = spellTokens (s.toList.map Token.ofChar) := by
  simp [escapeBraces, spellTokens, List.flatMap_map, spell_ofChar]

theorem paired_flatMap_escapeChar {b : Char} (hb : b = '{' ∨ b = '}') (cs : List Char) :
    Paired b (cs.flatMap escapeChar) := by
  induction cs with
  | nil => exact .nil
  | cons c cs ih =>
    rw [List.flatMap_cons]
    by_cases hcb : c = b
    · subst hcb
      simpa [escapeChar, hb] using Paired.double ih
    · by_cases hbrace : c = '{' ∨ c = '}'
      · -- the other brace, doubled, is two characters other than `b`
        simpa [escapeChar, hbrace] using Paired.single hcb (.single hcb ih)
      · simpa [escapeChar, hbrace] using Paired.single hcb ih

theorem nextMatch_of_paired {cs : List Char} (h : Paired '{' cs) : nextMatch cs = none := by
  have hopen := findRun_spec '{' cs
  unfold nextMatch
  rcases hfind : findRun '{' cs with _ | ⟨start, len⟩
  · rfl
  · rw [hfind] at hopen
    obtain ⟨pre, post, rfl, rfl, hpre, -, hhead, -, hodd⟩ := hopen
    rw [List.append_assoc] at h
    have heven := Paired.even_run (Paired.of_append hpre h) hhead
    obtain rfl : post = [] := hodd.resolve_left (by omega)
    have hdrop : (pre ++ List.replicate len '{' ++ []).drop (pre.length + len) = [] := by simp
    dsimp only
    rw [hdrop]
    rfl

theorem compile_of_paired {raw : String} (h : Paired '{' raw.toList) :
    compile raw = ⟨raw, raw, []⟩ := by
  simp [compile, compileFrom_of_none (nextMatch_of_paired h)]

/-- Escaping is undone by rendering: a text with every brace doubled compiles to itself with no
names, renders as the text with any values, and formats as the text with any arguments. -/
theorem escapeBraces_reads_back (s : String) :
    (compile (escapeBraces s)).names = [] ∧
      (compile (escapeBraces s)).positional = escapeBraces s ∧
      (∀ values, (compile (escapeBraces s)).render values = .ok s) ∧
      ∀ args : List Value, Composite.format args Value.formatWith (escapeBraces s) = .ok s := by
  have hformat : ∀ args : List Value,
      Composite.format args Value.formatWith (escapeBraces s) = .ok s := by
    intro args
    rw [Composite.format, escapeBraces_toList, formatFrom_spellTokens, List.map_map]
    simp [Function.comp_def, Token.char_ofChar]
  have hc : compile (escapeBraces s) = ⟨escapeBraces s, escapeBraces s, []⟩ :=
    compile_of_paired (by simpa [escapeBraces] using paired_flatMap_escapeChar (.inl rfl) s.toList)
  rw [hc]
  exact ⟨rfl, rfl, fun values => hformat _, hformat⟩

end Template

end MessageTemplate
