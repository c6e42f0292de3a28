import MessageTemplate.Template.Basic
/-! Runs of one brace in a template. -/
namespace MessageTemplate.Template

/-- The text is single characters other than `b` and doubled `b`s. -/
inductive Paired (b : Char) : List Char → Prop
  | nil : Paired b []
  | single {c : Char} {cs : List Char} : c ≠ b → Paired b cs → Paired b (c :: cs)
  | double {cs : List Char} : Paired b cs → Paired b (b :: b :: cs)

namespace Paired
variable {b : Char}

theorem cons_iff {c : Char} {cs : List Char} :
    Paired b (c :: cs) ↔ c ≠ b ∧ Paired b cs ∨ c = b ∧ ∃ cs', cs = b :: cs' ∧ Paired b cs' := by
  constructor
  · intro h
    cases h with
    | single hc h => exact .inl ⟨hc, h⟩
    | double h => exact .inr ⟨rfl, _, rfl, h⟩
  · rintro (⟨hc, h⟩ | ⟨rfl, cs', rfl, h⟩)
    · exact .single hc h
    · exact .double h

theorem of_cons {c : Char} {cs : List Char} (hc : c ≠ b) (h : Paired b (c :: cs)) :
    Paired b cs := by
  rcases cons_iff.mp h with ⟨-, h⟩ | ⟨rfl, -⟩
  · exact h
  · exact absurd rfl hc

/-- A brace in a paired text is doubled. -/
theorem of_brace {cs : List Char} (h : Paired b (b :: cs)) : ∃ cs', cs = b :: cs' ∧ Paired b cs' := by
  rcases cons_iff.mp h with ⟨hb, -⟩ | ⟨-, h⟩
  · exact absurd rfl hb
  · exact h

theorem of_double {cs : List Char} (h : Paired b (b :: b :: cs)) : Paired b cs := by
  obtain ⟨cs', hcs, h⟩ := of_brace h
  cases hcs
  exact h

theorem append {xs ys : List Char} (hx : Paired b xs) (hy : Paired b ys) :
    Paired b (xs ++ ys) := by
  induction hx with
  | nil => exact hy
  | single hc _ ih => exact .single hc ih
  | double _ ih => exact .double ih

/-- What follows a paired prefix of a paired text is paired. -/
theorem of_append {xs ys : List Char} (hx : Paired b xs) (h : Paired b (xs ++ ys)) :
    Paired b ys := by
  induction hx with
  | nil => exact h
  | single hc _ ih => exact ih (of_cons hc h)
  | double _ ih => exact ih (of_double h)

/-- Text paired in `b` splits into paired parts before any other character. -/
theorem split {c : Char} {xs ys : List Char} (hc : c ≠ b) (h : Paired b (xs ++ c :: ys)) :
    Paired b xs ∧ Paired b (c :: ys) := by
  generalize hzs : xs ++ c :: ys = zs at h
  induction h generalizing xs with
  | nil => simp at hzs
  | @single d zs hd _ ih =>
    cases xs with
    | nil =>
      simp only [List.nil_append, List.cons.injEq] at hzs
      obtain ⟨rfl, rfl⟩ := hzs
      exact ⟨.nil, .single hd ‹_›⟩
    | cons x xs =>
      simp only [List.cons_append, List.cons.injEq] at hzs
      obtain ⟨rfl, hzs⟩ := hzs
      exact ⟨.single hd (ih hzs).1, (ih hzs).2⟩
  | @double zs _ ih =>
    rcases xs with _ | ⟨x, _ | ⟨y, xs⟩⟩
    · simp only [List.nil_append, List.cons.injEq] at hzs
      exact absurd hzs.1 hc
    · simp only [List.cons_append, List.nil_append, List.cons.injEq] at hzs
      exact absurd hzs.2.1 hc
    · simp only [List.cons_append, List.cons.injEq] at hzs
      obtain ⟨rfl, rfl, hzs⟩ := hzs
      exact ⟨.double (ih hzs).1, (ih hzs).2⟩

theorem of_forall_ne {cs : List Char} (h : ∀ c ∈ cs, c ≠ b) : Paired b cs := by
  induction cs with
  | nil => exact .nil
  | cons c cs ih =>
    exact .single (h c List.mem_cons_self) (ih fun d hd => h d (List.mem_cons_of_mem c hd))

theorem replicate (k : Nat) : Paired b (List.replicate (2 * k) b) := by
  induction k with
  | zero => exact .nil
  | succ k ih =>
    rw [show 2 * (k + 1) = 2 * k + 1 + 1 by omega, List.replicate_succ, List.replicate_succ]
    exact .double ih

theorem split_of_getLast {xs ys : List Char} (hl : ∀ c ∈ xs.getLast?, c ≠ b)
    (h : Paired b (xs ++ ys)) : Paired b xs ∧ Paired b ys := by
  rcases List.eq_nil_or_concat xs with rfl | ⟨xs, c, rfl⟩
  · exact ⟨.nil, h⟩
  · rw [List.concat_eq_append] at hl h ⊢
    have hc : c ≠ b := hl c (by simp)
    rw [List.append_assoc, List.singleton_append] at h
    obtain ⟨hx, hcy⟩ := split hc h
    exact ⟨hx.append (.single hc .nil), of_cons hc hcy⟩

/-- A run of `b` that starts a paired text and is not followed by `b` has even length. -/
theorem even_run {k : Nat} {post : List Char} (h : Paired b (List.replicate k b ++ post))
    (hpost : ∀ c ∈ post.head?, c ≠ b) : k % 2 = 0 := by
  induction k using Nat.strongRecOn with
  | ind k ih =>
    rcases k with _ | _ | k
    · rfl
    · -- a single brace is doubled only by a brace after the run
      obtain ⟨cs, rfl, -⟩ := of_brace h
      exact (hpost b rfl rfl).elim
    · have h' : Paired b (List.replicate k b ++ post) := by
        rw [List.replicate_succ, List.replicate_succ] at h
        exact of_double h
      have := ih k (by omega) h'
      omega

end Paired

/-- What holds of the last character of a text holds of the last of any end of it. -/
theorem getLast?_of_append (xs : List Char) {ys : List Char} {p : Char → Prop}
    (h : ∀ c ∈ (xs ++ ys).getLast?, p c) : ∀ c ∈ ys.getLast?, p c := by
  intro c hc
  apply h
  rw [List.getLast?_append, Option.mem_def.mp hc]
  rfl

/-- What the scan for the first run of `b` that is odd or ends the text may return: where that
run starts and how long it is, or nothing when the text is paired and does not end in `b`. -/
def FirstRun (b : Char) (cs : List Char) : Option (Nat × Nat) → Prop
  | none => Paired b cs ∧ ∀ c ∈ cs.getLast?, c ≠ b
  | some (s, l) => ∃ pre post, cs = pre ++ List.replicate l b ++ post ∧ s = pre.length ∧
      Paired b pre ∧ (∀ c ∈ pre.getLast?, c ≠ b) ∧ (∀ c ∈ post.head?, c ≠ b) ∧ 0 < l ∧
      (l % 2 = 1 ∨ post = [])

/-- The scan from the middle of a text: what it has passed is paired and does not end in `b`,
and it is `count` braces into a run that started at `start`. -/
theorem findRunFrom_spec (b : Char) (cs done : List Char) (start count : Nat)
    (hd : Paired b done) (hl : ∀ c ∈ done.getLast?, c ≠ b)
    (hs : 0 < count → start = done.length) :
    FirstRun b (done ++ List.replicate count b ++ cs)
      (findRunFrom b cs (done.length + count) start count) := by
  induction cs generalizing done start count with
  | nil =>
    rw [findRunFrom]
    split
    case isTrue hc => exact ⟨done, [], rfl, hs hc, hd, hl, by simp, hc, .inr rfl⟩
    case isFalse hc =>
      obtain rfl : count = 0 := by omega
      simpa [FirstRun] using ⟨hd, hl⟩
  | cons c rest ih =>
    rw [findRunFrom]
    by_cases hc : c = b
    · subst hc
      rw [if_pos rfl]
      have h := ih done (if count = 0 then done.length + count else start) (count + 1) hd hl (by
          intro _
          split
          · omega
          · exact hs (by omega))
      rwa [List.replicate_succ', List.append_assoc, List.append_assoc, List.singleton_append,
        ← List.append_assoc] at h
    · rw [if_neg hc]
      split
      case isTrue h0 =>
        subst h0
        have h := ih (done ++ [c]) start 0 (hd.append (.single hc .nil)) (by simp [hc]) (by omega)
        simpa using h
      case isFalse h0 =>
        split
        case isTrue hodd =>
          exact ⟨done, c :: rest, rfl, hs (by omega), hd, hl, by simpa using hc, by omega, .inl hodd⟩
        case isFalse heven =>
          obtain ⟨k, hk⟩ : ∃ k, count = 2 * k := ⟨count / 2, by omega⟩
          have h := ih (done ++ List.replicate count b ++ [c]) start 0
            ((hd.append (hk ▸ Paired.replicate k)).append (.single hc .nil))
            (by simp [hc]) (by omega)
          have e : done ++ List.replicate count b ++ [c] ++ List.replicate 0 b ++ rest =
              done ++ List.replicate count b ++ c :: rest := by simp
          rwa [e, List.length_append, List.length_append, List.length_replicate,
            List.length_singleton] at h

/-- The scan for the first run of `b` that is odd or ends the text finds it. -/
theorem findRun_spec (b : Char) (cs : List Char) : FirstRun b cs (findRun b cs) := by
  rw [findRun]
  simpa using findRunFrom_spec b cs [] 0 0 .nil (by simp) (by simp)

theorem pos_of_findRun {b : Char} {cs : List Char} {s l : Nat} (h : findRun b cs = some (s, l)) :
    0 < l := by
  have hs := findRun_spec b cs
  rw [h] at hs
  obtain ⟨-, -, -, -, -, -, -, hl, -⟩ := hs
  exact hl

/-- `k` copies of `b` stand together in a text with no `b` right before or after them: a
maximal run of `b`. -/
def IsRun (b : Char) (cs : List Char) (k : Nat) : Prop :=
  ∃ pre post, cs = pre ++ List.replicate k b ++ post ∧ 0 < k ∧
    (∀ c ∈ pre.getLast?, c ≠ b) ∧ ∀ c ∈ post.head?, c ≠ b

/-- Every maximal run of `b` in a text paired in `b` has even length. -/
theorem Paired.even_of_isRun {b : Char} {cs : List Char} {k : Nat} (h : Paired b cs)
    (hr : IsRun b cs k) : k % 2 = 0 := by
  obtain ⟨pre, post, rfl, -, hpre, hpost⟩ := hr
  rw [List.append_assoc] at h
  exact Paired.even_run (Paired.split_of_getLast hpre h).2 hpost

/-! ### Scanning text of a known shape -/

theorem findRunFrom_replicate (b : Char) (k : Nat) (post : List Char) (i start count : Nat) :
    findRunFrom b (List.replicate k b ++ post) i start count =
      findRunFrom b post (i + k) (if count = 0 ∧ 0 < k then i else start) (count + k) := by
  induction k generalizing i start count with
  | zero => simp
  | succ k ih =>
    have hstart : (if count + 1 = 0 ∧ 0 < k then i + 1 else if count = 0 then i else start) =
        if count = 0 ∧ 0 < k + 1 then i else start := by
      by_cases h : count = 0 <;> simp [h]
    rw [List.replicate_succ, List.cons_append, findRunFrom, if_pos rfl, ih, hstart,
      show i + 1 + k = i + (k + 1) by omega, show count + 1 + k = count + (k + 1) by omega]

theorem findRunFrom_stop {b : Char} {post : List Char} {i start count : Nat} (hc : 0 < count)
    (hpost : ∀ c ∈ post.head?, c ≠ b) (hodd : count % 2 = 1 ∨ post = []) :
    findRunFrom b post i start count = some (start, count) := by
  cases post with
  | nil => simp [findRunFrom, hc]
  | cons c rest =>
    have hcb : c ≠ b := hpost c rfl
    have hodd' : count % 2 = 1 := hodd.resolve_right (by simp)
    simp [findRunFrom, hcb, hodd', Nat.pos_iff_ne_zero.mp hc]

/-- Scanning paired text from an even count leaves an even count, with its run ending where the
scan stands, and none at all after text that does not end in `b`. -/
theorem findRunFrom_paired {b : Char} {xs : List Char} (hx : Paired b xs) (rest : List Char) :
    ∀ i start count, count % 2 = 0 → (0 < count → start + count = i) →
    ∃ start' count', count' % 2 = 0 ∧ (0 < count' → start' + count' = i + xs.length) ∧
      ((∀ c ∈ xs.getLast?, c ≠ b) → count' = if xs = [] then count else 0) ∧
      findRunFrom b (xs ++ rest) i start count = findRunFrom b rest (i + xs.length) start' count' := by
  induction hx with
  | nil =>
    intro i start count hc hs
    exact ⟨start, count, hc, by simpa using hs, by simp, by simp⟩
  | @single c cs hcb _ ih =>
    intro i start count hc _
    -- a character other than `b` ends the counted run, which is even
    have hstep : findRunFrom b ((c :: cs) ++ rest) i start count =
        findRunFrom b (cs ++ rest) (i + 1) start 0 := by
      rw [List.cons_append, findRunFrom, if_neg hcb]
      by_cases h0 : count = 0
      · rw [if_pos h0]
      · rw [if_neg h0, if_neg (by omega)]
    obtain ⟨start', count', he, hs', hz, hscan⟩ := ih (i + 1) start 0 rfl (by omega)
    refine ⟨start', count', he, fun h => by have := hs' h; simp; omega, fun hl => ?_, ?_⟩
    · rw [hz (getLast?_of_append [c] hl)]
      simp
    · rw [hstep, hscan, List.length_cons, Nat.add_assoc, Nat.add_comm 1]
  | @double cs _ ih =>
    intro i start count hc hs
    have hstep : findRunFrom b ((b :: b :: cs) ++ rest) i start count =
        findRunFrom b (cs ++ rest) (i + 2) (if count = 0 then i else start) (count + 2) := by
      rw [List.cons_append, List.cons_append, findRunFrom, if_pos rfl, findRunFrom, if_pos rfl,
        if_neg (by omega)]
    obtain ⟨start', count', he, hs', hz, hscan⟩ :=
      ih (i + 2) (if count = 0 then i else start) (count + 2) (by omega)
        (fun _ => by split <;> omega)
    refine ⟨start', count', he, fun h => by have := hs' h; simp; omega, fun hl => ?_, ?_⟩
    · -- text ending in `b` after a doubled brace is not what is asked for
      cases cs with
      | nil => simp at hl
      | cons d ds => rw [hz (getLast?_of_append [b, b] hl)]; simp
    · rw [hstep, hscan, List.length_cons, List.length_cons, Nat.add_assoc, Nat.add_comm 2]

/-- The scan finds the run that a brace after paired text opens when no brace follows it: the
run ends at that brace. -/
theorem findRun_open {b : Char} {lead post : List Char} (hlead : Paired b lead)
    (hpost : ∀ c ∈ post.head?, c ≠ b) :
    ∃ s l, findRun b (lead ++ b :: post) = some (s, l) ∧ s + l = lead.length + 1 := by
  obtain ⟨start, count, heven, hstart, -, hscan⟩ :=
    findRunFrom_paired hlead (b :: post) 0 0 0 rfl (by omega)
  refine ⟨if count = 0 ∧ 0 < 1 then 0 + lead.length else start, count + 1, ?_, ?_⟩
  · rw [findRun, hscan, show b :: post = List.replicate 1 b ++ post from rfl,
      findRunFrom_replicate]
    exact findRunFrom_stop (by omega) hpost (.inl (by omega))
  · split
    · omega
    · have := hstart (by omega)
      omega

/-- The scan finds a run that follows paired text not ending in `b` and is odd or ends the
text: the converse of `findRun_spec`. -/
theorem findRun_of_run {b : Char} {pre post : List Char} {l : Nat} (hpre : Paired b pre)
    (hlast : ∀ c ∈ pre.getLast?, c ≠ b) (hpost : ∀ c ∈ post.head?, c ≠ b) (hl : 0 < l)
    (hodd : l % 2 = 1 ∨ post = []) :
    findRun b (pre ++ List.replicate l b ++ post) = some (pre.length, l) := by
  obtain ⟨start, count, -, -, hzero, hscan⟩ :=
    findRunFrom_paired hpre (List.replicate l b ++ post) 0 0 0 rfl (by omega)
  have hc : count = 0 := by
    rw [hzero hlast]
    split <;> rfl
  rw [findRun, List.append_assoc, hscan, hc, findRunFrom_replicate]
  simpa [hl] using @findRunFrom_stop b post (0 + pre.length + l) (0 + pre.length) l hl hpost hodd

end MessageTemplate.Template
