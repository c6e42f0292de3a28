import MessageTemplate.Proofs.Composite.Grammar
/-! The readers of an item, each against the written form it reads. -/
namespace MessageTemplate.Composite

/-! ### Digits and blanks -/

theorem readBounded_append {ds rest : List Char} (acc n : Nat) (hd : ∀ c ∈ ds, c.isDigit)
    (hr : ∀ c ∈ rest.head?, c.isDigit = false) (hb : digitsValue acc ds < limit) :
    readBounded (ds ++ rest) acc n = some (digitsValue acc ds, rest, n + ds.length) := by
  induction ds generalizing acc n with
  | nil =>
    cases rest with
    | nil => rfl
    | cons c cs => simp [readBounded, hr c rfl]
  | cons d ds ih =>
    have hv : acc * 10 + digitValue d < limit := Nat.lt_of_le_of_lt (le_digitsValue _ ds) hb
    have hd' : d.isDigit := hd d List.mem_cons_self
    have hrest := ih (acc * 10 + digitValue d) (n + 1)
      (fun c hc => hd c (List.mem_cons_of_mem d hc)) hb
    simp only [digitValue] at hv hrest
    simp only [List.cons_append, readBounded, hd', if_true, ge_iff_le, Nat.not_le.mpr hv,
      if_false, hrest, digitsValue_cons, digitValue, List.length_cons]
    grind

theorem readBounded_spec {cs rest : List Char} {acc n v m : Nat}
    (h : readBounded cs acc n = some (v, rest, m)) :
    ∃ ds, cs = ds ++ rest ∧ (∀ c ∈ ds, c.isDigit) ∧ (∀ c ∈ rest.head?, c.isDigit = false) ∧
      v = digitsValue acc ds ∧ m = n + ds.length ∧ (acc < limit → v < limit) := by
  induction cs, acc, n using readBounded.induct with
  | case1 acc n =>
    simp only [readBounded, Option.some.injEq, Prod.mk.injEq] at h
    obtain ⟨rfl, rfl, rfl⟩ := h
    exact ⟨[], rfl, by simp, by simp, rfl, rfl, id⟩
  | case2 c cs acc n hc v hv =>
    rw [readBounded, if_pos hc] at h
    dsimp only at h
    split at h
    · cases h
    · contradiction
  | case3 c cs acc n hc v hv ih =>
    rw [readBounded, if_pos hc] at h
    dsimp only at h
    split at h
    · contradiction
    obtain ⟨ds, rfl, hd, hr, rfl, rfl, hb⟩ := ih h
    refine ⟨c :: ds, rfl, ?_, hr, rfl, by simp; omega, fun _ => hb (by omega)⟩
    intro x hx
    rcases List.mem_cons.mp hx with rfl | hx
    · exact hc
    · exact hd x hx
  | case4 c cs acc n hc =>
    simp only [readBounded, hc, Bool.false_eq_true, if_false, Option.some.injEq,
      Prod.mk.injEq] at h
    obtain ⟨rfl, rfl, rfl⟩ := h
    exact ⟨[], rfl, by simp, by simpa using hc, rfl, rfl, id⟩

@[simp] theorem skipSpaces_blank_cons (cs : List Char) :
    skipSpaces (' ' :: cs) = ((skipSpaces cs).1, (skipSpaces cs).2 + 1) := by
  simp [skipSpaces]

theorem skipSpaces_of_head {cs : List Char} (h : ∀ c ∈ cs.head?, c ≠ ' ') :
    skipSpaces cs = (cs, 0) := by
  cases cs with
  | nil => rfl
  | cons c cs => simp [skipSpaces, h c rfl]

theorem skipSpaces_blanks (k : Nat) (rest : List Char) (hr : ∀ c ∈ rest.head?, c ≠ ' ') :
    skipSpaces (blanks k ++ rest) = (rest, k) := by
  induction k with
  | zero => exact skipSpaces_of_head hr
  | succ k ih => rw [blanks_succ, List.cons_append, skipSpaces_blank_cons, ih]

theorem skipSpaces_spec (cs : List Char) :
    cs = blanks (skipSpaces cs).2 ++ (skipSpaces cs).1 := by
  induction cs with
  | nil => rfl
  | cons c cs ih =>
    by_cases hc : c = ' '
    · subst hc
      rw [skipSpaces_blank_cons, blanks_succ, List.cons_append, ← ih]
    · rw [skipSpaces_of_head (by simpa using hc)]
      rfl

/-! ### The alignment part -/

theorem readSign_spell (neg : Bool) {r : List Char} (hr : ∀ c ∈ r.head?, c ≠ '-') :
    readSign ((if neg then ['-'] else []) ++ r) = (neg, r, if neg then 1 else 0) := by
  cases neg with
  | true => rfl
  | false =>
    cases r with
    | nil => rfl
    | cons c r =>
      have hc : c ≠ '-' := hr c rfl
      simp [readSign, hc]

theorem readSign_spec (r : List Char) :
    r = (if (readSign r).1 then ['-'] else []) ++ (readSign r).2.1 ∧
      (readSign r).2.2 = if (readSign r).1 then 1 else 0 := by
  unfold readSign
  split <;> simp

/-- What follows an alignment part cannot extend it. -/
def EndsAlignment (rest : List Char) : Prop :=
  ∀ c ∈ rest.head?, c ≠ ' ' ∧ c ≠ ',' ∧ c.isDigit = false

theorem readAlignment_spell (a : Option AlignmentText) (rest : List Char)
    (hb : ∀ x ∈ a, x.width.value < limit) (hr : EndsAlignment rest) :
    readAlignment (spellAlignment a ++ rest) =
      .ok (alignmentValue a, rest, (spellAlignment a).length) := by
  cases a with
  | none =>
    cases rest with
    | nil => rfl
    | cons c cs =>
      have hc : c ≠ ',' := (hr c rfl).2.1
      simp [readAlignment, spellAlignment, alignmentValue, hc]
  | some a =>
    obtain ⟨d, ds, hd⟩ := List.exists_cons_of_ne_nil a.width.ne_nil
    have hdig : d.isDigit := a.width.all_digit d (by simp [hd])
    -- after the width come blanks and `rest`, neither of which extends it
    have htrail : ∀ c ∈ (blanks a.trailing ++ rest).head?, c.isDigit = false := by
      cases a.trailing with
      | zero => simpa [blanks] using fun c hc => (hr c hc).2.2
      | succ k => simp [blanks, List.replicate_succ]
    have hwidth := readBounded_append 0 0 a.width.all_digit htrail (hb a rfl)
    have hend := skipSpaces_blanks a.trailing rest fun c hc => (hr c hc).1
    have hdash : d ≠ '-' := by rintro rfl; simp at hdig
    have hblank : d ≠ ' ' := by rintro rfl; simp at hdig
    have hsign := readSign_spell a.negative (r := a.width.digits ++ (blanks a.trailing ++ rest))
      (by simp [hd, hdash])
    have hlead : ∀ c ∈ ((if a.negative then ['-'] else []) ++
        (a.width.digits ++ (blanks a.trailing ++ rest))).head?, c ≠ ' ' := by
      cases a.negative <;> simp [hd, hblank]
    simp only [spellAlignment, List.cons_append, List.append_assoc]
    rw [readAlignment.eq_1, skipSpaces_blanks _ _ hlead]
    simp only
    rw [hsign]
    simp only
    rw [hd] at hwidth ⊢
    simp only [List.cons_append] at hwidth
    simp only [List.cons_append, hdig, Bool.not_true, Bool.false_eq_true, if_false, hwidth, hend,
      alignmentValue, Numeral.value, List.length_cons, List.length_append, length_blanks, hd]
    cases a.negative <;> simp <;> omega

theorem readAlignment_spec {r rest : List Char} {align : Int} {n : Nat}
    (h : readAlignment r = .ok (align, rest, n)) :
    ∃ a, r = spellAlignment a ++ rest ∧ align = alignmentValue a ∧
      n = (spellAlignment a).length ∧ ∀ x ∈ a, x.width.value < limit := by
  unfold readAlignment at h
  split at h
  · rename_i afterComma
    have hsplit := skipSpaces_spec afterComma
    rcases hsk : skipSpaces afterComma with ⟨r3, s3⟩
    rw [hsk] at h hsplit
    simp only at h hsplit
    obtain ⟨hsign, hs4⟩ := readSign_spec r3
    rcases hsg : readSign r3 with ⟨neg, r4, s4⟩
    rw [hsg] at h hsign hs4
    simp only at h hsign hs4
    split at h
    · rename_i d ds
      split at h
      · cases h
      · rename_i hd
        split at h
        · cases h
        · rename_i w r5 n5 hread
          obtain ⟨ws, hws, hwd, hr5, rfl, rfl, hwb⟩ := readBounded_spec hread
          have hsplit5 := skipSpaces_spec r5
          simp only [Except.ok.injEq, Prod.mk.injEq] at h
          obtain ⟨rfl, rfl, rfl⟩ := h
          -- the width starts at `d`, a digit, so it is not empty
          have hne : ws ≠ [] := by
            rintro rfl
            rw [List.nil_append] at hws
            rw [← hws] at hr5
            have hnd := hr5 d rfl
            simp [hnd] at hd
          refine ⟨some ⟨s3, neg, ⟨ws, hne, hwd⟩, (skipSpaces r5).2⟩, ?_, rfl, ?_, ?_⟩
          · simp only [spellAlignment, List.cons_append, List.append_assoc]
            rw [hsplit, hsign, hws, ← hsplit5]
          · cases neg <;> simp [spellAlignment, hs4] <;> omega
          · intro x hx
            cases hx
            exact hwb (by decide)
    · cases h
  · simp only [Except.ok.injEq, Prod.mk.injEq] at h
    obtain ⟨rfl, rfl, rfl⟩ := h
    exact ⟨none, rfl, rfl, rfl, by simp⟩

/-! ### The format part -/

theorem readSpec_token (t : Token) (cs acc : List Char) (n : Nat) :
    readSpec (t.spell ++ cs) acc n = readSpec cs (t.char :: acc) (n + t.spell.length) := by
  cases t with
  | plain c ho hc =>
    exact readSpec.eq_6 _ _ _ _ (fun _ h => absurd h hc) hc (fun _ h => absurd h ho) ho
  | openBrace => exact readSpec.eq_4 _ _ _
  | closeBrace => exact readSpec.eq_2 _ _ _

theorem readSpec_spell (ts : List Token) {rest : List Char} (hr : ∀ c ∈ rest.head?, c ≠ '}')
    (acc : List Char) (n : Nat) :
    readSpec (spellTokens ts ++ '}' :: rest) acc n =
      .ok (String.ofList (acc.reverse ++ ts.map Token.char), '}' :: rest,
        n + (spellTokens ts).length) := by
  induction ts generalizing acc n with
  | nil =>
    rw [spellTokens_nil, List.nil_append, readSpec.eq_3 _ _ _ fun r h => hr '}' (by simp [h]) rfl]
    simp
  | cons t ts ih =>
    rw [spellTokens_cons, List.append_assoc, readSpec_token, ih]
    simp only [List.reverse_cons, List.append_assoc, List.singleton_append, List.map_cons,
      List.length_append]
    grind

theorem readSpec_spec {cs acc r : List Char} {n m : Nat} {s : String}
    (h : readSpec cs acc n = .ok (s, r, m)) :
    ∃ ts rest, cs = spellTokens ts ++ '}' :: rest ∧ r = '}' :: rest ∧
      (∀ c ∈ rest.head?, c ≠ '}') ∧ s = String.ofList (acc.reverse ++ ts.map Token.char) ∧
      m = n + (spellTokens ts).length := by
  induction cs, acc, n using readSpec.induct with
  | case1 acc n => simp [readSpec] at h
  | case2 rest acc n ih =>
    rw [readSpec.eq_2] at h
    obtain ⟨ts, rest', rfl, rfl, hr, rfl, rfl⟩ := ih h
    refine ⟨.closeBrace :: ts, rest', rfl, rfl, hr, ?_, ?_⟩
    · simp only [List.reverse_cons, List.map_cons, Token.char, List.append_assoc,
        List.singleton_append]
    · simp [Token.spell]
      omega
  | case3 rest acc n hrest =>
    rw [readSpec.eq_3 _ _ _ hrest] at h
    simp only [Except.ok.injEq, Prod.mk.injEq] at h
    obtain ⟨rfl, rfl, rfl⟩ := h
    refine ⟨[], rest, rfl, rfl, ?_, by simp, by simp⟩
    rintro c hc rfl
    cases rest with
    | nil => cases hc
    | cons c' rest =>
      cases hc
      exact hrest rest rfl
  | case4 rest acc n ih =>
    rw [readSpec.eq_4] at h
    obtain ⟨ts, rest', rfl, rfl, hr, rfl, rfl⟩ := ih h
    refine ⟨.openBrace :: ts, rest', rfl, rfl, hr, ?_, ?_⟩
    · simp only [List.reverse_cons, List.map_cons, Token.char, List.append_assoc,
        List.singleton_append]
    · simp [Token.spell]
      omega
  | case5 tail acc n htail => rw [readSpec.eq_5 _ _ _ htail] at h; cases h
  | case6 c rest acc n h1 hc h2 ho ih =>
    rw [readSpec.eq_6 _ _ _ _ h1 hc h2 ho] at h
    obtain ⟨ts, rest', rfl, rfl, hr, rfl, rfl⟩ := ih h
    refine ⟨.plain c ho hc :: ts, rest', rfl, rfl, hr, ?_, ?_⟩
    · simp only [List.reverse_cons, List.map_cons, Token.char, List.append_assoc,
        List.singleton_append]
    · simp [Token.spell]
      omega

/-! ### Items -/

theorem head_after_blanks (al : Option AlignmentText) (f : Option (List Token)) (rest : List Char) :
    ∀ c ∈ (spellAlignment al ++ (spellFormat f ++ '}' :: rest)).head?,
      c = ',' ∨ c = ':' ∨ c = '}' := by
  cases al <;> cases f <;> simp [spellAlignment, spellFormat]

theorem head_after_index (b : Nat) (al : Option AlignmentText) (f : Option (List Token))
    (rest : List Char) :
    ∀ c ∈ (blanks b ++ (spellAlignment al ++ (spellFormat f ++ '}' :: rest))).head?,
      c.isDigit = false := by
  intro c hc
  cases b with
  | zero => rcases head_after_blanks al f rest c hc with rfl | rfl | rfl <;> rfl
  | succ b =>
    simp only [blanks_succ, List.cons_append, List.head?_cons, Option.mem_def,
      Option.some.injEq] at hc
    subst hc
    rfl

theorem readItem_spell (it : ItemText) {rest : List Char} (hb : it.InBounds)
    (hr : it.format.isSome → ∀ c ∈ rest.head?, c ≠ '}') :
    readItem (it.spell ++ rest) = .ok (it.toItem, it.spell.length) := by
  obtain ⟨⟨digits, hne, hdg⟩, b, al, f⟩ := it
  obtain ⟨d, ds, rfl⟩ := List.exists_cons_of_ne_nil hne
  have hdig : d.isDigit := hdg d List.mem_cons_self
  have hindex := readBounded_append 0 0 hdg (head_after_index b al f rest) hb.1
  have hskip := skipSpaces_blanks b (spellAlignment al ++ (spellFormat f ++ '}' :: rest))
    fun c hc => by rcases head_after_blanks al f rest c hc with rfl | rfl | rfl <;> decide
  have halign := readAlignment_spell al (spellFormat f ++ '}' :: rest) hb.2
    (by cases f <;> simp [EndsAlignment, spellFormat])
  simp only [ItemText.spell, List.append_assoc, List.cons_append, List.nil_append] at hindex ⊢
  rw [readItem.eq_1, if_neg (by simp [hdig]), hindex]
  simp only
  rw [hskip]
  simp only
  rw [halign]
  simp only
  cases f with
  | none =>
    simp only [spellFormat, List.nil_append, ItemText.toItem, formatText, Numeral.value,
      List.length_cons, List.length_append, length_blanks, List.length_nil, Except.ok.injEq,
      Prod.mk.injEq, true_and]
    omega
  | some ts =>
    simp only [spellFormat, List.cons_append]
    rw [readSpec_spell ts (hr rfl) [] 0]
    simp only [ItemText.toItem, formatText, Numeral.value, List.reverse_nil, List.nil_append,
      List.length_cons, List.length_append, length_blanks, List.length_nil, Except.ok.injEq,
      Prod.mk.injEq, true_and]
    omega

theorem readItem_spec {cs : List Char} {item : Item} {used : Nat}
    (h : readItem cs = .ok (item, used)) :
    ∃ (it : ItemText) (rest : List Char), cs = it.spell ++ rest ∧ used = it.spell.length ∧
      item = it.toItem ∧ it.InBounds ∧
      (it.format.isSome → ∀ c ∈ rest.head?, c ≠ '}') := by
  cases cs with
  | nil => simp [readItem] at h
  | cons c tail =>
    rw [readItem.eq_1] at h
    split at h
    · cases h
    rename_i hc
    split at h
    · cases h
    rename_i index r1 n1 hread
    obtain ⟨ds, hds, hdd, hr1, rfl, rfl, hib⟩ := readBounded_spec hread
    -- the index starts at `c`, a digit, so it is not empty
    have hne : ds ≠ [] := by
      rintro rfl
      rw [List.nil_append] at hds
      rw [← hds] at hr1
      simp [hr1 c rfl] at hc
    have hsplit := skipSpaces_spec r1
    rcases hsk : skipSpaces r1 with ⟨r2, s2⟩
    rw [hsk] at h hsplit
    simp only at h hsplit
    split at h
    · cases h
    rename_i align r7 n7 hal
    obtain ⟨a, rfl, rfl, rfl, hab⟩ := readAlignment_spec hal
    have hbounds : ItemText.InBounds ⟨⟨ds, hne, hdd⟩, s2, a, none⟩ := ⟨hib (by decide), hab⟩
    split at h
    · cases h
    · rename_i afterColon
      split at h
      · cases h
      rename_i spec r8 n8 hspec
      obtain ⟨ts, rest, rfl, rfl, hrest, rfl, rfl⟩ := readSpec_spec hspec
      simp only [Except.ok.injEq, Prod.mk.injEq] at h
      obtain ⟨rfl, rfl⟩ := h
      refine ⟨⟨⟨ds, hne, hdd⟩, s2, a, some ts⟩, rest, ?_, ?_, rfl, hbounds, fun _ => hrest⟩
      · rw [hds, hsplit]
        simp [ItemText.spell, spellFormat]
      · simp [ItemText.spell, spellFormat]
        omega
    · rename_i rest
      simp only [Except.ok.injEq, Prod.mk.injEq] at h
      obtain ⟨rfl, rfl⟩ := h
      refine ⟨⟨⟨ds, hne, hdd⟩, s2, a, none⟩, rest, ?_, ?_, rfl, hbounds, by simp⟩
      · rw [hds, hsplit]
        simp [ItemText.spell, spellFormat]
      · simp [ItemText.spell, spellFormat]
        omega
    · cases h

end MessageTemplate.Composite
