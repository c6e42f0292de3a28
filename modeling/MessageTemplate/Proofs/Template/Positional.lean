import MessageTemplate.Proofs.Template.Pieces
/-! Composite reading of a compiled template. -/
namespace MessageTemplate.Template

open Composite

theorem isDigit_of_mem_toString {i : Nat} {c : Char} (h : c ∈ (toString i).toList) :
    c.isDigit :=
  Nat.isDigit_of_mem_toDigits (b := 10) (by decide) (by decide) (by simpa using h)

theorem digitsValue_toString (i : Nat) : digitsValue 0 (toString i).toList = i := by
  have hfold : ∀ (ds : List Char) (acc : Nat), digitsValue acc ds = Nat.ofDigitChars 10 ds acc := by
    intro ds
    induction ds with
    | nil => simp
    | cons d ds ih => intro acc; simp [ih, Nat.ofDigitChars_cons, digitValue, Nat.mul_comm]
  simp [hfold]

/-- How pieces take apart the numbered text of placeholders followed by a tail, the numbers
being places in `names`: each placeholder's lead as tokens, less the closing braces that a
format before it took when `skip` holds, then an item with the placeholder's number, its
alignment and a format when its suffix has one; at the end the tail as tokens. -/
inductive ReadsAs (names : List String) : Bool → List Piece → List Placeholder → List Char → Prop
  | tail {skip : Bool} {ts : List Token} {tail : List Char} :
      spellTokens ts = trimIf skip tail → ReadsAs names skip (ts.map .token) [] tail
  | item {skip : Bool} {ts : List Token} {it : ItemText} {ps : List Piece} {p : Placeholder}
      {phs : List Placeholder} {tail : List Char} :
      spellTokens ts = trimIf skip p.lead → it.index.value = names.idxOf p.name →
      alignmentValue it.alignment = alignmentOf p.suffix → it.format.isSome = hasFormat p.suffix →
      ReadsAs names (hasFormat p.suffix) ps phs tail →
      ReadsAs names skip (ts.map .token ++ .item it :: ps) (p :: phs) tail

/-- The numbered text of a text starts as the text does, up to its first open brace. -/
theorem numbered_text_prefix {cs pre post : List Char} (names : List String)
    (h : cs = pre ++ post) (hpre : '{' ∉ pre) :
    ∃ ys, (numbered (parts cs).1 names).1 ++ (parts cs).2 = pre ++ ys ∧ ys.head? = post.head? := by
  rcases hnext : nextMatch cs with _ | ⟨lead, body, after⟩
  · rw [parts_of_none hnext]
    exact ⟨post, by simp [numbered, h], rfl⟩
  · have hm := isMatch_of_nextMatch hnext
    rw [parts_of_some hnext]
    obtain ⟨xs, hxs⟩ : ∃ xs, (numbered (Placeholder.ofMatch lead body :: (parts after).1)
        names).1 ++ (parts after).2 = lead ++ '{' :: xs :=
      ⟨(numbered (Placeholder.ofMatch lead body :: (parts after).1) names).1.drop (lead.length + 1) ++
        (parts after).2, by simp [numbered, Placeholder.ofMatch]⟩
    rw [hxs]
    rcases List.append_eq_append_iff.mp (h.symm.trans hm.eq) with ⟨a', rfl, hpost⟩ | ⟨c', rfl, hc'⟩
    · exact ⟨a' ++ '{' :: xs, by simp, by cases a' <;> simp [hpost]⟩
    · cases c' with
      | nil =>
        rw [List.nil_append] at hc'
        exact ⟨'{' :: xs, by simp, by rw [← hc']; rfl⟩
      | cons c c' =>
        simp only [List.cons_append, List.cons.injEq] at hc'
        exact absurd (List.mem_append_right lead (hc'.1 ▸ List.mem_cons_self)) hpre

/-- Pieces spelling the numbered text of a text's placeholders and its tail, less leading
closing braces when `skip` holds, take it apart as the compiler put it together. -/
theorem readsAs_of_spellPieces (cs : List Char) (names : List String) (skip : Bool)
    (ps : List Piece)
    (h : spellPieces ps = trimIf skip ((numbered (parts cs).1 names).1 ++ (parts cs).2))
    (hc : ps.IsChain Piece.CanPrecede) :
    ReadsAs (numbered (parts cs).1 names).2 skip ps (parts cs).1 (parts cs).2 := by
  induction cs using parts.induct generalizing names skip ps with
  | case1 cs hnone =>
    rw [parts_of_none hnone] at h ⊢
    rw [numbered, List.nil_append] at h
    obtain ⟨ts, rfl, hts⟩ := tokens_of_unmatched h (unmatched_of_nextMatch hnone).trim hc
    exact .tail hts
  | case2 cs lead body after hsome _ ih =>
    have hm := isMatch_of_nextMatch hsome
    rw [parts_of_some hsome] at h ⊢
    set p := Placeholder.ofMatch lead body
    set r := indexOf names p.name
    have htext : (numbered (p :: (parts after).1) names).1 ++ (parts after).2 =
        lead ++ '{' :: ((toString r.1).toList ++ p.suffix ++ '}' ::
          ((numbered (parts after).1 r.2).1 ++ (parts after).2)) := by
      simp [numbered, p, r, Placeholder.ofMatch]
    rw [htext, trimIf_append_open] at h
    -- the lead is tokens, and the open brace starts an item
    obtain ⟨ts, ps1, rfl, hts, hps1⟩ := tokens_of_spellPieces h hm.lead_paired.trim (by simp)
    obtain ⟨d, ds, hd⟩ : ∃ d ds, (toString r.1).toList = d :: ds :=
      List.exists_cons_of_ne_nil (by simp)
    have hdigit : d.isDigit := isDigit_of_mem_toString (hd ▸ List.mem_cons_self)
    rcases ps1 with _ | ⟨(t | it), ps2⟩
    · simp at hps1
    · -- a token would have to start with the open brace and a digit
      exfalso
      rw [hd] at hps1
      rcases t with (c | _ | _)
      case plain ho _ =>
        simp only [spellPieces_cons, Piece.spell, Token.spell, List.cons_append, List.nil_append,
          List.cons.injEq] at hps1
        exact ho hps1.1
      case openBrace =>
        simp only [spellPieces_cons, Piece.spell, Token.spell, List.cons_append, List.nil_append,
          List.cons.injEq] at hps1
        rw [← hps1.2.1] at hdigit
        exact absurd hdigit (by decide)
      case closeBrace => simp [Piece.spell, Token.spell] at hps1
    · have hchain : (Piece.item it :: ps2).IsChain Piece.CanPrecede := hc.right_of_append
      simp only [spellPieces_cons, Piece.spell, List.cons_append, List.cons.injEq, true_and] at hps1
      -- after the close brace comes the rest of its run, then text not starting with `}`
      obtain ⟨m, post, hafter, hpost, hmpost⟩ := hm.after_run
      obtain ⟨ys, hys, hhead⟩ := numbered_text_prefix r.2 hafter (by simp [List.mem_replicate])
      have hsuffix := hm.suffix_paired
      obtain ⟨hidx, hal, hfmt, hps2⟩ := item_of_numbered hps1 (fun c => isDigit_of_mem_toString)
        (Placeholder.suffix_head lead body) hsuffix.1 hsuffix.2 hys
        (fun c hc => hpost c (hhead ▸ hc))
        (hmpost.imp_right fun hp => List.head?_eq_none_iff.mp (by rw [hhead, hp]; rfl))
        (head_spellPieces_ne_close hchain)
      refine .item hts ?_ hal hfmt (ih r.2 (hasFormat p.suffix) ps2 hps2 hchain.tail)
      rw [Numeral.value, hidx, digitsValue_toString]
      exact indexOf_fst_eq_idxOf names p.name (parts after).1

namespace ReadsAs
variable {names : List String} {skip : Bool} {ps : List Piece} {phs : List Placeholder}
  {tail : List Char}

theorem mem_item (h : ReadsAs names skip ps phs tail) {it : ItemText} (hit : .item it ∈ ps) :
    ∃ p ∈ phs, it.index.value = names.idxOf p.name := by
  induction h with
  | tail => simp at hit
  | @item skip ts it' ps p phs tail _ hidx _ _ _ ih =>
    simp only [List.mem_append, List.mem_map, List.mem_cons] at hit
    rcases hit with ⟨t, -, ht⟩ | hit | hit
    · cases ht
    · cases hit
      exact ⟨p, List.mem_cons_self, hidx⟩
    · obtain ⟨q, hq, hidx'⟩ := ih hit
      exact ⟨q, List.mem_cons_of_mem p hq, hidx'⟩

theorem exists_item (h : ReadsAs names skip ps phs tail) {p : Placeholder} (hp : p ∈ phs) :
    ∃ it, .item it ∈ ps ∧ it.index.value = names.idxOf p.name := by
  induction h with
  | tail => simp at hp
  | @item skip ts it ps q phs tail _ hidx _ _ _ ih =>
    rcases List.mem_cons.mp hp with rfl | hp
    · exact ⟨it, by simp, hidx⟩
    · obtain ⟨it', hit', hidx'⟩ := ih hp
      exact ⟨it', by simp [hit'], hidx'⟩

end ReadsAs

/-- Pieces that spell a compiled template's positional form read it as the compiler wrote it. -/
theorem readsAs_of_compile {raw : String} {ps : List Piece}
    (h : (compile raw).positional.toList = spellPieces ps) (hc : ps.IsChain Piece.CanPrecede) :
    ReadsAs (compile raw).names false ps (parts raw.toList).1 (parts raw.toList).2 := by
  rw [compile_names]
  refine readsAs_of_spellPieces raw.toList [] false ps ?_ hc
  rw [← h, compile_positional, String.toList_ofList]
  rfl

theorem mem_names_of_mem_parts {raw : String} {p : Placeholder} (hp : p ∈ (parts raw.toList).1) :
    p.name ∈ (compile raw).names := by
  rw [compile_names, mem_numbered]
  exact .inr ⟨p, hp, rfl⟩

/-- Every item read from a compiled template's positional form is numbered below the count of
its names. -/
theorem index_lt_of_compile {raw : String} {ps : List Piece}
    (h : (compile raw).positional.toList = spellPieces ps) (hc : ps.IsChain Piece.CanPrecede)
    {it : ItemText} (hit : .item it ∈ ps) : it.index.value < (compile raw).names.length := by
  obtain ⟨p, hp, hidx⟩ := (readsAs_of_compile h hc).mem_item hit
  rw [hidx]
  exact List.idxOf_lt_length_of_mem (mem_names_of_mem_parts hp)

/-- Every name of a compiled template is the number of an item read from its positional form. -/
theorem exists_item_of_compile {raw : String} {ps : List Piece}
    (h : (compile raw).positional.toList = spellPieces ps) (hc : ps.IsChain Piece.CanPrecede)
    {j : Nat} (hj : j < (compile raw).names.length) :
    ∃ it, .item it ∈ ps ∧ it.index.value = j := by
  obtain ⟨p, hp, hname⟩ : ∃ p ∈ (parts raw.toList).1, p.name = (compile raw).names[j] := by
    have hmem : (compile raw).names[j] ∈ (numbered (parts raw.toList).1 []).2 := by
      rw [← compile_names]
      exact List.getElem_mem hj
    simpa using mem_numbered.mp hmem
  obtain ⟨it, hit, hidx⟩ := (readsAs_of_compile h hc).exists_item hp
  refine ⟨it, hit, ?_⟩
  have hnodup : (compile raw).names.Nodup := by
    rw [compile_names]
    exact nodup_numbered _ List.nodup_nil
  rw [hidx, hname, List.Nodup.idxOf_getElem hnodup]

end MessageTemplate.Template
