import MessageTemplate.Proofs.Template.Positional
/-! Compiling a template is an invertible renaming. -/
namespace MessageTemplate.Template

open Composite

/-! ### Writing placeholders out -/

/-- A placeholder written out: its lead, then its name and suffix in braces. -/
def Placeholder.text (p : Placeholder) : List Char :=
  p.lead ++ '{' :: (p.name.toList ++ p.suffix ++ ['}'])

/-- The placeholder with its name replaced by `f`. -/
def Placeholder.rename (f : String → String) (p : Placeholder) : Placeholder :=
  { p with name := f p.name }

/-- Placeholders written out one after another, then a tail. -/
def spell (phs : List Placeholder) (tail : List Char) : List Char :=
  phs.flatMap Placeholder.text ++ tail

/-- The placeholders of a text with each name replaced by its number, numbering after
`names`. -/
def numberedParts : List Placeholder → List String → List Placeholder
  | [], _ => []
  | p :: ps, names =>
    { p with name := toString (indexOf names p.name).1 } :: numberedParts ps (indexOf names p.name).2

theorem spell_parts (cs : List Char) : spell (parts cs).1 (parts cs).2 = cs := by
  induction cs using parts.induct with
  | case1 cs h => simp [spell, parts_of_none h]
  | case2 cs lead body after h _ ih =>
    rw [parts_of_some h, (isMatch_of_nextMatch h).eq]
    simp only [spell, List.flatMap_cons] at ih ⊢
    rw [List.append_assoc, ih]
    simp [Placeholder.text, Placeholder.ofMatch]

/-! ### The scan in the positional form -/

theorem toString_ne_nil (i : Nat) : (toString i).toList ≠ [] := by
  simp [Nat.toDigits_ne_nil]

/-- A number followed by a suffix reads as that number for a name and the suffix. -/
theorem ofMatch_number (lead suffix : List Char) (i : Nat)
    (hs : ∀ c ∈ suffix.head?, c = ',' ∨ c = ':') :
    Placeholder.ofMatch lead ((toString i).toList ++ suffix) = ⟨lead, toString i, suffix⟩ := by
  have hd : ∀ c ∈ (toString i).toList, (!isNameEnd c) = true := by
    intro c hc
    have hd := isDigit_of_mem_toString hc
    -- a digit is neither `,` nor `:`
    have h1 : c ≠ ',' := by
      rintro rfl
      exact absurd hd (by decide)
    have h2 : c ≠ ':' := by
      rintro rfl
      exact absurd hd (by decide)
    simp [isNameEnd, h1, h2]
  have hstop : ∀ c ∈ suffix.head?, (!isNameEnd c) = false := by
    intro c hc
    rcases hs c hc with rfl | rfl <;> rfl
  have htake : suffix.takeWhile (fun ch => !isNameEnd ch) = [] := by
    cases suffix with
    | nil => rfl
    | cons c rest => simp [hstop c rfl]
  have hdrop : suffix.dropWhile (fun ch => !isNameEnd ch) = suffix := by
    cases suffix with
    | nil => rfl
    | cons c rest => simp [hstop c rfl]
  unfold Placeholder.ofMatch
  rw [List.takeWhile_append_of_pos hd, List.dropWhile_append_of_pos hd, htake, hdrop,
    List.append_nil, String.ofList_toList]

/-- A matched placeholder is matched again with a number for its name, when the text after it
starts as before up to its first open brace. -/
theorem IsMatch.nextMatch_number {cs lead body after rest : List Char}
    (hm : IsMatch cs lead body after) (i : Nat)
    (hrest : ∀ m post, after = List.replicate m '}' ++ post →
      ∃ ys, rest = List.replicate m '}' ++ ys ∧ ys.head? = post.head?) :
    nextMatch (lead ++ '{' :: (((toString i).toList ++ (Placeholder.ofMatch lead body).suffix) ++
      '}' :: rest)) =
      some (lead, (toString i).toList ++ (Placeholder.ofMatch lead body).suffix, rest) := by
  obtain ⟨hsp, hsl⟩ := hm.suffix_paired
  have hdigit : ∀ c ∈ (toString i).toList, c.isDigit := fun c hc => isDigit_of_mem_toString hc
  have hclose : ∀ c ∈ (toString i).toList, c ≠ '}' := by
    rintro c hc rfl
    exact absurd (hdigit _ hc) (by decide)
  apply nextMatch_of_isMatch
  · refine ⟨rfl, hm.lead_paired, (Paired.of_forall_ne hclose).append hsp, ?_, ?_⟩
    · -- the body ends as the suffix does, or in a digit
      intro c hc
      rw [List.getLast?_append] at hc
      cases hs : (Placeholder.ofMatch lead body).suffix.getLast? with
      | some d =>
        rw [hs, Option.some_or] at hc
        exact hsl c (by rw [hs]; exact hc)
      | none =>
        rw [hs, Option.none_or] at hc
        exact hclose c (List.mem_of_getLast? hc)
    · obtain ⟨m, post, hafter, hpost, hm'⟩ := hm.after_run
      obtain ⟨ys, hys, hhead⟩ := hrest m post hafter
      refine ⟨m, ys, hys, by rw [hhead]; exact hpost, hm'.imp id fun h => ?_⟩
      rw [h] at hhead
      exact List.head?_eq_none_iff.mp hhead
  · -- the number's first digit is no open brace
    obtain ⟨d, ds, hds⟩ := List.exists_cons_of_ne_nil (toString_ne_nil i)
    have hd : d.isDigit := hdigit d (by rw [hds]; exact List.mem_cons_self)
    rw [hds]
    rintro c hc rfl
    rw [List.cons_append, List.cons_append, List.head?_cons, Option.mem_def,
      Option.some.injEq] at hc
    subst hc
    exact absurd hd (by decide)

/-- The compiler matches in the numbered text of a text's placeholders the same placeholders,
with their numbers for names, and the same tail. -/
theorem parts_numbered (cs : List Char) (names : List String) :
    parts ((numbered (parts cs).1 names).1 ++ (parts cs).2) =
      (numberedParts (parts cs).1 names, (parts cs).2) := by
  induction cs using parts.induct generalizing names with
  | case1 cs h => simp [parts_of_none h, numbered, numberedParts]
  | case2 cs lead body after h _ ih =>
    have hm := isMatch_of_nextMatch h
    have hnext := hm.nextMatch_number (indexOf names (Placeholder.ofMatch lead body).name).1
      fun m post hafter =>
        numbered_text_prefix (indexOf names (Placeholder.ofMatch lead body).name).2 hafter (by simp)
    rw [parts_of_some h]
    have e : (numbered (Placeholder.ofMatch lead body :: (parts after).1) names).1 ++
        (parts after).2 = lead ++ '{' :: (((toString (indexOf names
          (Placeholder.ofMatch lead body).name).1).toList ++ (Placeholder.ofMatch lead body).suffix) ++
          '}' :: ((numbered (parts after).1 (indexOf names
            (Placeholder.ofMatch lead body).name).2).1 ++ (parts after).2)) := by
      simp [numbered, Placeholder.ofMatch]
    rw [e, parts_of_some hnext, ih,
      ofMatch_number lead _ _ (Placeholder.suffix_head lead body)]
    rfl

/-! ### Numbering numbers -/

/-- The numbers below `n` written out: the names of a positional template with `n` names. -/
def numerals (n : Nat) : List String := (List.range n).map toString

theorem toString_injective : Function.Injective (toString : Nat → String) := by
  intro i j h
  rw [← digitsValue_toString i, ← digitsValue_toString j, h]

theorem numerals_succ (n : Nat) : numerals (n + 1) = numerals n ++ [toString n] := by
  simp [numerals, List.range_succ]

theorem length_numerals (n : Nat) : (numerals n).length = n := by
  simp [numerals]

theorem mem_numerals {i n : Nat} : toString i ∈ numerals n ↔ i < n := by
  rw [numerals, List.mem_map]
  constructor
  · rintro ⟨a, ha, he⟩
    rw [← toString_injective he]
    exact List.mem_range.mp ha
  · intro h
    exact ⟨i, List.mem_range.mpr h, rfl⟩

theorem idxOf_numerals {i n : Nat} (h : i < n) : (numerals n).idxOf (toString i) = i := by
  induction n with
  | zero => omega
  | succ n ih =>
    rw [numerals_succ, List.idxOf_append]
    by_cases hi : i < n
    · rw [if_pos (mem_numerals.mpr hi)]
      exact ih hi
    · obtain rfl : i = n := by omega
      rw [if_neg (fun h => hi (mem_numerals.mp h)), length_numerals]
      simp

theorem indexOf_numerals (names : List String) (name : String) :
    indexOf (numerals names.length) (toString (indexOf names name).1) =
      ((indexOf names name).1, numerals (indexOf names name).2.length) := by
  rw [indexOf_eq names name]
  split
  · next hn =>
    have hlt := List.idxOf_lt_length_of_mem hn
    rw [indexOf_eq, if_pos (mem_numerals.mpr hlt), idxOf_numerals hlt]
  · next hn =>
    rw [indexOf_eq, if_neg (fun h => Nat.lt_irrefl _ (mem_numerals.mp h)), length_numerals,
      List.length_append, List.length_singleton, numerals_succ]

theorem numbered_numberedParts (phs : List Placeholder) (names : List String) :
    numbered (numberedParts phs names) (numerals names.length) =
      ((numbered phs names).1, numerals (numbered phs names).2.length) := by
  induction phs generalizing names with
  | nil => rfl
  | cons p ps ih =>
    simp only [numberedParts, numbered]
    rw [indexOf_numerals, ih]

/-- Replacing the numbers of numbered placeholders by the names they number, among all the names
known at the end, gives back the placeholders. -/
theorem numberedParts_rename (phs : List Placeholder) (names : List String) :
    (numberedParts phs names).map (Placeholder.rename fun k =>
      (numbered phs names).2.getD (digitsValue 0 k.toList) "") = phs := by
  induction phs generalizing names with
  | nil => rfl
  | cons p ps ih =>
    simp only [numberedParts, numbered, List.map_cons]
    rw [ih]
    -- the number written is the name's place among all the names, where it is found again
    have hmem : p.name ∈ (numbered ps (indexOf names p.name).2).2 := by
      refine mem_numbered.mpr (.inl ?_)
      rw [indexOf_eq]
      split <;> simp_all
    have hlt := List.idxOf_lt_length_of_mem hmem
    simp only [Placeholder.rename, digitsValue_toString, indexOf_fst_eq_idxOf names p.name ps,
      List.getD_eq_getElem?_getD, List.getElem?_eq_getElem hlt, List.getElem_idxOf hlt,
      Option.getD_some]

/-! ### Compiling as a renaming -/

/-- Compiling renames each placeholder to its name's number and keeps the rest: the names are
distinct, compiling the positional form again numbers the names `0` to `n - 1` and writes it
back unchanged, and writing out the placeholders matched there with each number replaced by the
name it stands for gives back the template. -/
theorem compile_renaming (raw : String) :
    (compile raw).names.Nodup ∧
      (compile (compile raw).positional).names =
        (List.range (compile raw).names.length).map toString ∧
      (compile (compile raw).positional).positional = (compile raw).positional ∧
      String.ofList (spell ((parts (compile raw).positional.toList).1.map
        (Placeholder.rename fun k => (compile raw).names.getD (digitsValue 0 k.toList) ""))
        (parts (compile raw).positional.toList).2) = raw := by
  have hpos : (compile raw).positional.toList =
      (numbered (parts raw.toList).1 []).1 ++ (parts raw.toList).2 := by
    rw [compile_positional, String.toList_ofList]
  -- the scan matches the same placeholders in the positional form, numbered
  have hparts : parts (compile raw).positional.toList =
      (numberedParts (parts raw.toList).1 [], (parts raw.toList).2) := by
    rw [hpos, parts_numbered]
  have hagain : numbered (numberedParts (parts raw.toList).1 []) [] =
      ((numbered (parts raw.toList).1 []).1,
        numerals (numbered (parts raw.toList).1 []).2.length) :=
    numbered_numberedParts (parts raw.toList).1 []
  refine ⟨?_, ?_, ?_, ?_⟩
  · rw [compile_names]
    exact nodup_numbered _ List.nodup_nil
  · rw [compile_names, hparts, compile_names]
    exact congrArg Prod.snd hagain
  · rw [compile_positional (compile raw).positional, hparts]
    dsimp only
    rw [hagain, ← hpos, String.ofList_toList]
  · rw [hparts, compile_names]
    dsimp only
    rw [numberedParts_rename, spell_parts, String.ofList_toList]

end MessageTemplate.Template
