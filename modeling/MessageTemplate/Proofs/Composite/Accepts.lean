import Mathlib.Data.List.Chain
import MessageTemplate.Proofs.Composite.Items
import MessageTemplate.Value.Format
/-! Composite formatting accepts exactly the texts written as pieces whose items render, and
outputs what those pieces render as. -/
namespace MessageTemplate.Composite

section
variable {α : Type} (args : List α) (formatArg : α → String → Except Standard.SpecError String)

/-- A token outside an item stands for its character, whatever follows it. -/
theorem formatFrom_token (t : Token) (out : String) (offset : Nat) (cs : List Char) :
    ∃ offset', formatFrom args formatArg out offset (t.spell ++ cs) =
      formatFrom args formatArg (out ++ String.singleton t.char) offset' cs := by
  cases t with
  | plain c ho hc =>
    refine ⟨offset + Text.byteWidth c, ?_⟩
    rw [Token.spell, List.singleton_append,
      formatFrom.eq_6 _ _ _ _ _ _ (fun _ h => absurd h hc) hc (fun _ h => absurd h ho) ho,
      String.push_eq_append]
    rfl
  | openBrace =>
    refine ⟨offset + 2, ?_⟩
    rw [Token.spell, List.cons_append, List.cons_append, List.nil_append, formatFrom.eq_4,
      String.push_eq_append]
    rfl
  | closeBrace =>
    refine ⟨offset + 2, ?_⟩
    rw [Token.spell, List.cons_append, List.cons_append, List.nil_append, formatFrom.eq_2,
      String.push_eq_append]
    rfl

/-- An item that renders is replaced by its text, provided what follows cannot extend its
format. -/
theorem formatFrom_item {it : ItemText} {text : String}
    (h : Piece.Renders args formatArg (.item it) text) (out : String) (offset : Nat)
    (cs : List Char) (hr : it.format.isSome → ∀ c ∈ cs.head?, c ≠ '}') :
    ∃ offset', formatFrom args formatArg out offset ('{' :: (it.spell ++ cs)) =
      formatFrom args formatArg (out ++ text) offset' cs := by
  cases h with
  | item it a text hb harg hf =>
    refine ⟨offset + 1 + byteCount ((it.spell ++ cs).take it.spell.length), ?_⟩
    obtain ⟨d, ds, hd⟩ := List.exists_cons_of_ne_nil it.index.ne_nil
    have hdig : d.isDigit := it.index.all_digit d (by simp [hd])
    -- an item starts with a digit, so it is not the escape `{{`
    have hne : ∀ r, it.spell ++ cs = '{' :: r → False := by
      intro r hr
      simp only [ItemText.spell, hd, List.cons_append, List.cons.injEq] at hr
      simp [hr.1] at hdig
    rw [formatFrom.eq_5 _ _ _ _ _ hne, readItem_spell it hb hr]
    simp only [ItemText.toItem] at hf ⊢
    simp only [harg, hf, List.drop_left]

/-- The text after an item with a format cannot start with `}`, since the item may not stand
before `}}`. -/
theorem head_spellPieces_ne_close {p : Piece} {ps : List Piece}
    (hc : (p :: ps).IsChain Piece.CanPrecede) (hf : p.hasFormat = true) :
    ∀ c ∈ (spellPieces ps).head?, c ≠ '}' := by
  cases ps with
  | nil => simp
  | cons q ps =>
    rintro c hc' rfl
    obtain ⟨cs, hq⟩ : ∃ cs, q.spell = '}' :: cs := by
      obtain ⟨c', cs, hq⟩ := q.spell_eq_cons
      simp only [spellPieces_cons, hq, List.cons_append, List.head?_cons, Option.mem_def,
        Option.some.injEq] at hc'
      exact ⟨cs, hc' ▸ hq⟩
    exact (List.isChain_cons_cons.mp hc).1 hf (q.eq_closeBrace_of_spell cs hq)

/-- Pieces that render are formatted as the concatenation of what they render as. -/
theorem formatFrom_spellPieces {ps : List Piece} {outs : List String}
    (hr : List.Forall₂ (Piece.Renders args formatArg) ps outs)
    (hc : ps.IsChain Piece.CanPrecede) (out : String) (offset : Nat) :
    formatFrom args formatArg out offset (spellPieces ps) = .ok (out ++ String.join outs) := by
  induction hr generalizing out offset with
  | nil => simp [formatFrom]
  | @cons p s ps outs hp _ ih =>
    have htail := hc.tail
    cases p with
    | token t =>
      cases hp
      obtain ⟨offset', h⟩ := formatFrom_token args formatArg t out offset (spellPieces ps)
      rw [spellPieces_cons, Piece.spell, h, ih htail, String.join_cons, String.append_assoc]
    | item it =>
      obtain ⟨offset', h⟩ := formatFrom_item args formatArg hp out offset (spellPieces ps)
        (head_spellPieces_ne_close hc)
      rw [spellPieces_cons, Piece.spell, List.cons_append, h, ih htail, String.join_cons,
        String.append_assoc]

/-- Whatever is formatted is written as pieces that render, and is formatted as what they
render as. -/
theorem pieces_of_formatFrom {out res : String} {offset : Nat} {cs : List Char}
    (h : formatFrom args formatArg out offset cs = .ok res) :
    ∃ ps outs, cs = spellPieces ps ∧ ps.IsChain Piece.CanPrecede ∧
      List.Forall₂ (Piece.Renders args formatArg) ps outs ∧ res = out ++ String.join outs := by
  induction out, offset, cs using formatFrom.induct args formatArg with
  | case1 out offset =>
    rw [formatFrom.eq_1, Except.ok.injEq] at h
    exact ⟨[], [], rfl, .nil, .nil, by simp [h]⟩
  | case2 out offset rest ih =>
    rw [formatFrom.eq_2] at h
    obtain ⟨ps, outs, rfl, hc, hr, rfl⟩ := ih h
    refine ⟨.token .closeBrace :: ps, String.singleton '}' :: outs, rfl,
      hc.cons (fun _ _ h => by cases h), .cons (.token _) hr, ?_⟩
    rw [String.push_eq_append, String.join_cons, String.append_assoc]
  | case3 out offset tail htail => rw [formatFrom.eq_3 _ _ _ _ _ htail] at h; cases h
  | case4 out offset rest ih =>
    rw [formatFrom.eq_4] at h
    obtain ⟨ps, outs, rfl, hc, hr, rfl⟩ := ih h
    refine ⟨.token .openBrace :: ps, String.singleton '{' :: outs, rfl,
      hc.cons (fun _ _ h => by cases h), .cons (.token _) hr, ?_⟩
    rw [String.push_eq_append, String.join_cons, String.append_assoc]
  | case5 out offset rest hrest e he =>
    rw [formatFrom.eq_5 _ _ _ _ _ hrest, he] at h
    cases h
  | case6 out offset rest hrest it used hit hidx =>
    rw [formatFrom.eq_5 _ _ _ _ _ hrest, hit] at h
    simp only [hidx] at h
    cases h
  | case7 out offset rest hrest it used hit a ha e he =>
    rw [formatFrom.eq_5 _ _ _ _ _ hrest, hit] at h
    simp only [ha, he] at h
    cases h
  | case8 out offset rest hrest it used hit a ha text htext ih =>
    rw [formatFrom.eq_5 _ _ _ _ _ hrest, hit] at h
    simp only [ha, htext] at h
    obtain ⟨ps, outs, hps, hc, hr, rfl⟩ := ih h
    obtain ⟨itx, rest', rfl, rfl, rfl, hb, hgreedy⟩ := readItem_spec hit
    rw [List.drop_left] at hps
    subst hps
    refine ⟨.item itx :: ps, pad text itx.toItem.alignment :: outs, rfl, ?_,
      .cons (.item itx a text hb ha htext) hr, by simp [String.append_assoc]⟩
    refine hc.cons fun q hq hf hclose => ?_
    subst hclose
    cases ps with
    | nil => cases hq
    | cons q' ps =>
      simp only [List.head?_cons, Option.mem_def, Option.some.injEq] at hq
      subst hq
      exact hgreedy hf '}' (by simp [Piece.spell, Token.spell]) rfl
  | case9 out offset c rest h1 hc h2 ho ih =>
    rw [formatFrom.eq_6 _ _ _ _ _ _ h1 hc h2 ho] at h
    obtain ⟨ps, outs, rfl, hch, hr, rfl⟩ := ih h
    refine ⟨.token (.plain c ho hc) :: ps, String.singleton c :: outs, rfl,
      hch.cons (fun _ _ h => by cases h), .cons (.token _) hr, ?_⟩
    rw [String.push_eq_append, String.join_cons, String.append_assoc]

end

/-- Composite formatting accepts exactly the texts made of characters other than braces, the
escapes `{{` and `}}`, and items `{index[,alignment][:format]}` whose numerals stay below the
limit, whose index names an argument, and whose argument accepts the format (with `}}` always
continuing a format). Its output is each character, one brace per escape, and each item's
formatted argument padded to its alignment. -/
theorem format_eq_ok_iff (args : List Value) (text out : String) :
    format args Value.formatWith text = .ok out ↔
      ∃ ps outs, text.toList = spellPieces ps ∧ ps.IsChain Piece.CanPrecede ∧
        List.Forall₂ (Piece.Renders args Value.formatWith) ps outs ∧ out = String.join outs := by
  constructor
  · intro h
    simpa using pieces_of_formatFrom args Value.formatWith h
  · rintro ⟨ps, outs, htext, hc, hr, rfl⟩
    rw [format, htext, formatFrom_spellPieces args Value.formatWith hr hc]
    simp

end MessageTemplate.Composite
