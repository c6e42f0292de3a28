import MessageTemplate.Proofs.Template.Runs
/-! The compiler's reading of a template. -/
namespace MessageTemplate.Template

/-- The next placeholder the scan matches: the text before its open brace, its body and the
text after its close brace. -/
def nextMatch (cs : List Char) : Option (List Char × List Char × List Char) :=
  match findRun '{' cs with
  | none => none
  | some (start, len) =>
    let afterOpen := cs.drop (start + len)
    match findRun '}' afterOpen with
    | none => none
    | some (closeAt, _) =>
      some (cs.take (start + len - 1), afterOpen.take closeAt, afterOpen.drop (closeAt + 1))

/-- A placeholder as the scan matches it in a text. -/
structure IsMatch (cs lead body after : List Char) : Prop where
  eq : cs = lead ++ '{' :: (body ++ '}' :: after)
  lead_paired : Paired '{' lead
  body_paired : Paired '}' body
  body_last : ∀ c ∈ body.getLast?, c ≠ '}'
  after_run : ∃ m post, after = List.replicate m '}' ++ post ∧ (∀ c ∈ post.head?, c ≠ '}') ∧
    (m % 2 = 0 ∨ post = [])

/-- Text in which the scan matches nothing: it is paired in `{`, or it has an open brace ending
an odd run and followed by text paired in `}` that does not end in `}`. -/
def Unmatched (cs : List Char) : Prop :=
  Paired '{' cs ∨ ∃ lead post, cs = lead ++ '{' :: post ∧ Paired '{' lead ∧
    (∀ c ∈ post.head?, c ≠ '{') ∧ Paired '}' post ∧ ∀ c ∈ post.getLast?, c ≠ '}'

theorem isMatch_of_nextMatch {cs lead body after : List Char}
    (h : nextMatch cs = some (lead, body, after)) : IsMatch cs lead body after := by
  have hopen := findRun_spec '{' cs
  unfold nextMatch at h
  split at h
  case h_1 => cases h
  case h_2 start len hfind =>
    rw [hfind] at hopen
    obtain ⟨pre, post, rfl, rfl, hpre, -, -, hlen, hodd⟩ := hopen
    have hdrop : (pre ++ List.replicate len '{' ++ post).drop (pre.length + len) = post := by
      simp
    dsimp only at h
    rw [hdrop] at h
    have hclose := findRun_spec '}' post
    split at h
    case h_1 => cases h
    case h_2 closeAt l hfind' =>
      rw [hfind'] at hclose
      obtain ⟨body', post', rfl, rfl, hbody, hblast, hhead, hl, hodd'⟩ := hclose
      obtain ⟨len, rfl⟩ : ∃ k, len = k + 1 := ⟨len - 1, by omega⟩
      obtain ⟨l, rfl⟩ : ∃ k, l = k + 1 := ⟨l - 1, by omega⟩
      simp only [Option.some.injEq, Prod.mk.injEq] at h
      obtain ⟨rfl, rfl, rfl⟩ := h
      -- the open run is odd: it does not end the text, as the close run follows it
      obtain ⟨k, hk⟩ : ∃ k, len = 2 * k := ⟨len / 2, by simp at hodd; omega⟩
      have e1 : List.replicate (len + 1) '{' = List.replicate len '{' ++ ['{'] :=
        List.replicate_succ'
      have e2 : List.replicate (l + 1) '}' = '}' :: List.replicate l '}' := List.replicate_succ
      have hlead : ∀ x, (pre ++ List.replicate (len + 1) '{' ++ x).take
          (pre.length + (len + 1) - 1) = pre ++ List.replicate len '{' := by
        intro x
        rw [e1, ← List.append_assoc, List.append_assoc _ _ x]
        exact List.take_left' (by simp)
      rw [hlead, e2]
      refine ⟨by simp [e1], ?_, by simpa using hbody, by simpa using hblast,
        ⟨l, post', by simp, hhead, hodd'.imp (fun h => by omega) id⟩⟩
      rw [hk]
      exact hpre.append (Paired.replicate k)

theorem unmatched_of_nextMatch {cs : List Char} (h : nextMatch cs = none) : Unmatched cs := by
  have hopen := findRun_spec '{' cs
  unfold nextMatch at h
  split at h
  case h_1 hfind =>
    rw [hfind] at hopen
    exact .inl hopen.1
  case h_2 start len hfind =>
    rw [hfind] at hopen
    obtain ⟨pre, post, rfl, rfl, hpre, -, hhead, hlen, hodd⟩ := hopen
    have hdrop : (pre ++ List.replicate len '{' ++ post).drop (pre.length + len) = post := by
      simp
    dsimp only at h
    rw [hdrop] at h
    have hclose := findRun_spec '}' post
    split at h
    case h_2 => cases h
    case h_1 hfind' =>
      rw [hfind'] at hclose
      obtain ⟨len, rfl⟩ : ∃ k, len = k + 1 := ⟨len - 1, by omega⟩
      by_cases hpar : (len + 1) % 2 = 1
      · -- an odd open run: its last brace opens a placeholder that is never closed
        obtain ⟨k, hk⟩ : ∃ k, len = 2 * k := ⟨len / 2, by omega⟩
        refine .inr ⟨pre ++ List.replicate len '{', post, by simp [List.replicate_succ'], ?_,
          hhead, hclose.1, hclose.2⟩
        rw [hk]
        exact hpre.append (Paired.replicate k)
      · -- an even run ends the text, which is then paired
        obtain rfl := hodd.resolve_left hpar
        obtain ⟨k, hk⟩ : ∃ k, len + 1 = 2 * k := ⟨(len + 1) / 2, by omega⟩
        refine .inl ?_
        rw [List.append_nil, hk]
        exact hpre.append (Paired.replicate k)

/-- The scan matches a placeholder laid out as `IsMatch` says when no open brace follows its own:
the converse of `isMatch_of_nextMatch`. -/
theorem nextMatch_of_isMatch {cs lead body after : List Char} (h : IsMatch cs lead body after)
    (hopen : ∀ c ∈ (body ++ '}' :: after).head?, c ≠ '{') :
    nextMatch cs = some (lead, body, after) := by
  obtain ⟨s, l, hfind, hsl⟩ := findRun_open h.lead_paired hopen
  obtain ⟨m, post, hafter, hpost, hm⟩ := h.after_run
  -- the close brace starts the run of `}` that follows the body
  have hclose : findRun '}' (body ++ '}' :: after) = some (body.length, m + 1) := by
    have e : body ++ '}' :: after = body ++ List.replicate (m + 1) '}' ++ post := by
      simp [hafter, List.replicate_succ]
    rw [e]
    exact findRun_of_run h.body_paired h.body_last hpost (by omega) (hm.imp (fun h => by omega) id)
  unfold nextMatch
  rw [h.eq, hfind]
  dsimp only
  have hdrop : (lead ++ '{' :: (body ++ '}' :: after)).drop (s + l) = body ++ '}' :: after := by
    rw [hsl]
    simp
  have htake : (lead ++ '{' :: (body ++ '}' :: after)).take (s + l - 1) = lead := by
    rw [hsl, Nat.add_sub_cancel]
    simp
  rw [hdrop, hclose, htake]
  simp

theorem IsMatch.length_lt {cs lead body after : List Char} (h : IsMatch cs lead body after) :
    after.length < cs.length := by
  rw [h.eq]
  simp only [List.length_append, List.length_cons]
  omega

/-- A placeholder as the compiler matches it: the text before its open brace since the previous
placeholder, its name, and the rest of its body from the first `,` or `:` on. -/
structure Placeholder where
  lead : List Char
  name : String
  suffix : List Char

/-- The placeholder of a match with its lead and body. -/
def Placeholder.ofMatch (lead body : List Char) : Placeholder :=
  ⟨lead, String.ofList (body.takeWhile fun ch => !isNameEnd ch),
    body.dropWhile fun ch => !isNameEnd ch⟩

/-- A suffix starts with `,` or `:`, when it is not empty. -/
theorem Placeholder.suffix_head (lead body : List Char) :
    ∀ c ∈ (Placeholder.ofMatch lead body).suffix.head?, c = ',' ∨ c = ':' := by
  intro c hc
  have := List.head?_dropWhile_not (fun ch => !isNameEnd ch) body
  simp only [Placeholder.ofMatch, Option.mem_def] at hc
  rw [hc] at this
  simp only [isNameEnd, Bool.not_eq_false', Bool.or_eq_true, decide_eq_true_eq] at this
  exact this

/-- The suffix of a match is paired in `}` and does not end in `}`, as its body. -/
theorem IsMatch.suffix_paired {cs lead body after : List Char} (h : IsMatch cs lead body after) :
    Paired '}' (Placeholder.ofMatch lead body).suffix ∧
      ∀ c ∈ (Placeholder.ofMatch lead body).suffix.getLast?, c ≠ '}' := by
  have hsplit := List.takeWhile_append_dropWhile (p := fun ch => !isNameEnd ch) (l := body)
  refine ⟨?_, getLast?_of_append _ (hsplit ▸ h.body_last)⟩
  simp only [Placeholder.ofMatch]
  rcases hs : body.dropWhile (fun ch => !isNameEnd ch) with _ | ⟨c, s⟩
  · exact .nil
  · have hc : c ≠ '}' := by
      have := Placeholder.suffix_head lead body c (by simp [Placeholder.ofMatch, hs])
      rcases this with rfl | rfl <;> decide
    rw [hs] at hsplit
    exact (Paired.split hc (hsplit ▸ h.body_paired)).2

/-- The placeholders the compiler matches in a text, in order, and the text after the last. -/
def parts (cs : List Char) : List Placeholder × List Char :=
  match h : nextMatch cs with
  | none => ([], cs)
  | some (lead, body, after) =>
    have := (isMatch_of_nextMatch h).length_lt
    (Placeholder.ofMatch lead body :: (parts after).1, (parts after).2)
termination_by cs.length

/-- The positional text of placeholders whose names are numbered after `names`, and the names
known afterwards. -/
def numbered : List Placeholder → List String → List Char × List String
  | [], names => ([], names)
  | p :: ps, names =>
    let r := indexOf names p.name
    (p.lead ++ '{' :: ((toString r.1).toList ++ p.suffix ++ '}' :: (numbered ps r.2).1),
      (numbered ps r.2).2)

theorem parts_of_none {cs : List Char} (h : nextMatch cs = none) : parts cs = ([], cs) := by
  rw [parts]
  split
  case h_1 => rfl
  case h_2 h' => rw [h] at h'; cases h'

theorem parts_of_some {cs lead body after : List Char} (h : nextMatch cs = some (lead, body, after)) :
    parts cs = (Placeholder.ofMatch lead body :: (parts after).1, (parts after).2) := by
  rw [parts]
  split
  case h_1 h' => rw [h] at h'; cases h'
  case h_2 h' =>
    rw [h] at h'
    cases h'
    rfl

theorem compileFrom_of_none {cs : List Char} (h : nextMatch cs = none) (out : List Char)
    (names : List String) : compileFrom cs out names = (out ++ cs, names) := by
  cases cs with
  | nil => simp [compileFrom]
  | cons c rest =>
    unfold nextMatch at h
    rw [compileFrom]
    rcases hfind : findRun '{' (c :: rest) with _ | ⟨start, len⟩
    · rfl
    · rw [hfind] at h
      dsimp only at h ⊢
      rw [show start + len - 1 + 1 = start + len by have := pos_of_findRun hfind; omega]
      rcases hclose : findRun '}' ((c :: rest).drop (start + len)) with _ | ⟨closeAt, l⟩
      · rfl
      · rw [hclose] at h
        cases h

theorem take_succ_of_eq_append {cs lead rest : List Char} {c : Char} {n : Nat}
    (hlead : lead = cs.take n) (h : cs = lead ++ c :: rest) : cs.take (n + 1) = lead ++ [c] := by
  have hlen : lead.length = n := by
    have h1 : lead.length = min n cs.length := by rw [hlead, List.length_take]
    have h2 : cs.length = lead.length + (rest.length + 1) := by
      rw [h, List.length_append, List.length_cons]
    omega
  rw [h, ← hlen, List.take_append, List.take_of_length_le (by simp), Nat.add_sub_cancel_left]
  rfl

theorem compileFrom_of_some {cs lead body after : List Char}
    (h : nextMatch cs = some (lead, body, after)) (out : List Char) (names : List String) :
    compileFrom cs out names =
      compileFrom after (out ++ (lead ++ '{' :: ((toString (indexOf names
        (Placeholder.ofMatch lead body).name).1).toList ++ (Placeholder.ofMatch lead body).suffix ++
        ['}']))) (indexOf names (Placeholder.ofMatch lead body).name).2 := by
  have hm := isMatch_of_nextMatch h
  cases cs with
  | nil => exact absurd hm.eq (by simp)
  | cons c rest =>
    unfold nextMatch at h
    rw [compileFrom]
    rcases hfind : findRun '{' (c :: rest) with _ | ⟨start, len⟩
    · rw [hfind] at h
      cases h
    · rw [hfind] at h
      dsimp only at h ⊢
      have hopen : start + len - 1 + 1 = start + len := by
        have := pos_of_findRun hfind
        omega
      rw [hopen]
      rcases hclose : findRun '}' ((c :: rest).drop (start + len)) with _ | ⟨closeAt, l⟩
      · rw [hclose] at h
        cases h
      · rw [hclose] at h
        simp only [Option.some.injEq, Prod.mk.injEq] at h
        obtain ⟨rfl, rfl, rfl⟩ := h
        -- the compiler copies the lead with its open brace
        have htake := take_succ_of_eq_append rfl hm.eq
        rw [hopen] at htake
        dsimp only
        rw [htake]
        simp [Placeholder.ofMatch]

theorem compileFrom_eq (cs out : List Char) (names : List String) :
    compileFrom cs out names =
      (out ++ (numbered (parts cs).1 names).1 ++ (parts cs).2, (numbered (parts cs).1 names).2) := by
  induction cs using parts.induct generalizing out names with
  | case1 cs h => rw [compileFrom_of_none h, parts_of_none h, numbered, List.append_nil]
  | case2 cs lead body after h _ ih =>
    rw [compileFrom_of_some h, ih, parts_of_some h]
    simp [numbered, Placeholder.ofMatch]

theorem compile_positional (raw : String) :
    (compile raw).positional =
      String.ofList ((numbered (parts raw.toList).1 []).1 ++ (parts raw.toList).2) := by
  simp [compile, compileFrom_eq]

theorem compile_names (raw : String) :
    (compile raw).names = (numbered (parts raw.toList).1 []).2 := by
  simp [compile, compileFrom_eq]

theorem idxOf?_eq_ite (names : List String) (name : String) :
    names.idxOf? name = if name ∈ names then some (names.idxOf name) else none := by
  induction names with
  | nil => simp
  | cons n ns ih =>
    rw [List.idxOf?_cons, List.idxOf_cons, ih]
    by_cases h : n = name
    · simp [h]
    · have h' : (n == name) = false := by simpa using h
      by_cases hm : name ∈ ns <;> simp [h', hm, Ne.symm h]

/-- A known name keeps its number; a new one is numbered next and added. -/
theorem indexOf_eq (names : List String) (name : String) :
    indexOf names name =
      if name ∈ names then (names.idxOf name, names) else (names.length, names ++ [name]) := by
  rw [indexOf, idxOf?_eq_ite]
  split <;> simp_all

theorem prefix_numbered (phs : List Placeholder) (names : List String) :
    names <+: (numbered phs names).2 := by
  induction phs generalizing names with
  | nil => exact List.prefix_refl names
  | cons p phs ih =>
    refine List.IsPrefix.trans ?_ (ih _)
    rw [indexOf_eq]
    split
    · exact List.prefix_refl names
    · exact List.prefix_append names [p.name]

theorem mem_numbered {phs : List Placeholder} {names : List String} {name : String} :
    name ∈ (numbered phs names).2 ↔ name ∈ names ∨ ∃ p ∈ phs, p.name = name := by
  induction phs generalizing names with
  | nil => simp [numbered]
  | cons p phs ih =>
    rw [numbered, ih, indexOf_eq]
    split <;> grind

theorem nodup_numbered (phs : List Placeholder) {names : List String} (h : names.Nodup) :
    (numbered phs names).2.Nodup := by
  induction phs generalizing names with
  | nil => exact h
  | cons p phs ih =>
    refine ih ?_
    rw [indexOf_eq]
    split
    case isTrue => exact h
    case isFalse hp => exact List.nodup_append.mpr ⟨h, by simp, by grind⟩

/-- The number written for a placeholder is its name's place among all the names. -/
theorem indexOf_fst_eq_idxOf (names : List String) (name : String) (phs : List Placeholder) :
    (indexOf names name).1 = (numbered phs (indexOf names name).2).2.idxOf name := by
  obtain ⟨extra, hextra⟩ := prefix_numbered phs (indexOf names name).2
  have hmem : name ∈ (indexOf names name).2 := by
    rw [indexOf_eq]
    split <;> simp_all
  rw [← hextra, List.idxOf_append, if_pos hmem, indexOf_eq]
  split
  case isTrue => rfl
  case isFalse hp => simp [List.idxOf_append, hp]

end MessageTemplate.Template
