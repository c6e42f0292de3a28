import MessageTemplate.Proofs.Template.Runs
/-! The brace scan over a window of a text, read off the maximal runs of the brace. -/
namespace MessageTemplate.Template

/-- Which brace of a run a scan reports. -/
inductive RunPick where
  | first
  | last
deriving DecidableEq, Repr

/-- The position of the brace `pick` names in a run of `k` braces from position `p`. -/
def RunPick.position : RunPick → Nat → Nat → Nat
  | .first, p, _ => p
  | .last, p, k => p + k - 1

/-- The characters of a text from position `start` up to `stop`. -/
def window (cs : List Char) (start stop : Nat) : List Char := (cs.drop start).take (stop - start)

/-- The position in `cs` of the first run of `brace` in `cs[start:stop]` that has odd length or
reaches `stop`, at the brace `pick` names; `stop` when there is none. -/
def findBrace (cs : List Char) (brace : Char) (start stop : Nat) (pick : RunPick) : Nat :=
  match findRun brace (window cs start stop) with
  | none => stop
  | some (p, k) => start + pick.position p k

/-- A maximal run of `b` in `w`: the `k` characters from position `p` are `b`, and the ones right
before and right after them, where there are such, are not. -/
def RunAt (b : Char) (w : List Char) (p k : Nat) : Prop :=
  0 < k ∧ (∀ i, p ≤ i → i < p + k → w[i]? = some b) ∧ (∀ i, i + 1 = p → w[i]? ≠ some b) ∧
    w[p + k]? ≠ some b

/-- A run the scan stops at: it has odd length or reaches the end. -/
def Stops (b : Char) (w : List Char) (p k : Nat) : Prop :=
  RunAt b w p k ∧ (k % 2 = 1 ∨ p + k = w.length)

/-- The first run the scan stops at. -/
def FirstStop (b : Char) (w : List Char) (p k : Nat) : Prop :=
  Stops b w p k ∧ ∀ p' k', Stops b w p' k' → p ≤ p'

theorem RunPick.position_mem (pick : RunPick) {p k : Nat} (hk : 0 < k) :
    p ≤ pick.position p k ∧ pick.position p k < p + k := by
  cases pick <;> simp only [position] <;> omega

namespace RunAt
variable {b : Char} {w : List Char} {p k : Nat}

theorem le_length (h : RunAt b w p k) : p + k ≤ w.length := by
  obtain ⟨hk, hrun, -, -⟩ := h
  have hb := hrun (p + k - 1) (by omega) (by omega)
  refine Nat.le_of_not_lt fun hlt => ?_
  rw [List.getElem?_eq_none (by omega)] at hb
  cases hb

theorem length_unique {k' : Nat} (h : RunAt b w p k) (h' : RunAt b w p k') : k = k' := by
  obtain ⟨-, hrun, -, hafter⟩ := h
  obtain ⟨-, hrun', -, hafter'⟩ := h'
  rcases Nat.lt_trichotomy k k' with hlt | heq | hgt
  · exact absurd (hrun' (p + k) (by omega) (by omega)) hafter
  · exact heq
  · exact absurd (hrun (p + k') (by omega) (by omega)) hafter'

/-- A maximal run that starts inside a part of the text not ending in `b` lies in that part, and
a character of that part follows it. -/
theorem of_append {u v : List Char} (h : RunAt b (u ++ v) p k) (hp : p < u.length)
    (hlast : ∀ c ∈ u.getLast?, c ≠ b) : RunAt b u p k ∧ p + k < u.length := by
  obtain ⟨hk, hrun, hbefore, hafter⟩ := h
  have hu : ∀ i, i < u.length → (u ++ v)[i]? = u[i]? := fun i hi => List.getElem?_append_left hi
  -- the last character of `u` is no `b`, so the run ends before it
  have hend : p + k < u.length := by
    refine Nat.lt_of_not_le fun hge => ?_
    have hb := hrun (u.length - 1) (by omega) (by omega)
    rw [hu _ (by omega), ← List.getLast?_eq_getElem?] at hb
    exact hlast b hb rfl
  refine ⟨⟨hk, fun i hi hi' => ?_, fun i hi => ?_, ?_⟩, hend⟩
  · rw [← hu i (by omega)]
    exact hrun i hi hi'
  · rw [← hu i (by omega)]
    exact hbefore i hi
  · rwa [hu _ hend] at hafter

/-- A maximal run cuts its text into the part before it, the run and the part after it. -/
theorem isRun (h : RunAt b w p k) : IsRun b w k := by
  have hlen := h.le_length
  obtain ⟨hk, hrun, hbefore, hafter⟩ := h
  have hmid : (w.drop p).take k = List.replicate k b := by
    apply List.ext_getElem?
    intro i
    by_cases hi : i < k
    · rw [List.getElem?_take_of_lt hi, List.getElem?_drop, hrun (p + i) (by omega) (by omega),
        List.getElem?_replicate_of_lt hi]
    · rw [List.getElem?_eq_none (by simp; omega), List.getElem?_eq_none (by simp; omega)]
  refine ⟨w.take p, w.drop (p + k), ?_, hk, fun c hc => ?_, fun c hc => ?_⟩
  · rw [← hmid, ← List.drop_drop, List.append_assoc, List.take_append_drop,
      List.take_append_drop]
  · have hp : 0 < p := by
      refine Nat.pos_of_ne_zero fun hp => ?_
      rw [hp, List.take_zero] at hc
      cases hc
    rw [List.getLast?_eq_getElem?, List.getElem?_take_of_lt (by simp; omega), List.length_take,
      Nat.min_eq_left (by omega)] at hc
    rintro rfl
    exact hbefore (p - 1) (by omega) (Option.mem_def.mp hc)
  · rw [List.head?_drop] at hc
    rintro rfl
    exact hafter hc

end RunAt

section Scan
variable {b : Char} {w : List Char} {p k : Nat}

theorem runAt_replicate {pre post : List Char} (hk : 0 < k) (hpre : ∀ c ∈ pre.getLast?, c ≠ b)
    (hpost : ∀ c ∈ post.head?, c ≠ b) :
    RunAt b (pre ++ List.replicate k b ++ post) pre.length k := by
  refine ⟨hk, fun i hi hi' => ?_, fun i hi => ?_, ?_⟩
  · rw [List.append_assoc, List.getElem?_append_right hi,
      List.getElem?_append_left (by simp; omega), List.getElem?_replicate_of_lt (by omega)]
  · rw [List.append_assoc, List.getElem?_append_left (by omega),
      show i = pre.length - 1 by omega, ← List.getLast?_eq_getElem?]
    intro hb
    exact hpre b hb rfl
  · rw [List.getElem?_append_right (by simp), List.length_append, List.length_replicate,
      Nat.sub_self, ← List.head?_eq_getElem?]
    intro hb
    exact hpost b hb rfl

theorem escaped_of_paired (hw : Paired b w) (hl : ∀ c ∈ w.getLast?, c ≠ b) (h : RunAt b w p k) :
    k % 2 = 0 ∧ p + k < w.length := by
  have hp : p < w.length := by
    have := h.le_length
    have := h.1
    omega
  have h' : RunAt b (w ++ []) p k := by rwa [List.append_nil]
  exact ⟨hw.even_of_isRun h.isRun, (h'.of_append hp hl).2⟩

theorem escaped_before {pre post : List Char} {l : Nat} (hpre : Paired b pre)
    (hlast : ∀ c ∈ pre.getLast?, c ≠ b) (h : RunAt b (pre ++ List.replicate l b ++ post) p k)
    (hp : p < pre.length) : k % 2 = 0 ∧ p + k < (pre ++ List.replicate l b ++ post).length := by
  rw [List.append_assoc] at h
  obtain ⟨hr, hend⟩ := h.of_append hp hlast
  refine ⟨hpre.even_of_isRun hr.isRun, ?_⟩
  simp only [List.length_append]
  omega

theorem FirstStop.unique {p' k' : Nat} (h : FirstStop b w p k) (h' : FirstStop b w p' k') :
    p = p' ∧ k = k' := by
  obtain rfl : p = p' := Nat.le_antisymm (h.2 p' k' h'.1) (h'.2 p k h.1)
  exact ⟨rfl, h.1.1.length_unique h'.1.1⟩

theorem firstStop_of_findRun (h : findRun b w = some (p, k)) : FirstStop b w p k := by
  have hs := findRun_spec b w
  rw [h] at hs
  obtain ⟨pre, post, rfl, rfl, hpre, hlast, hpost, hk, hodd⟩ := hs
  refine ⟨⟨runAt_replicate hk hlast hpost, ?_⟩, fun p' k' hs' => ?_⟩
  · rcases hodd with hodd | rfl
    · exact .inl hodd
    · exact .inr (by simp)
  · refine Nat.le_of_not_lt fun hlt => ?_
    obtain ⟨he, hin⟩ := escaped_before hpre hlast hs'.1 hlt
    rcases hs'.2 with h | h <;> omega

theorem findRun_eq_none_iff :
    findRun b w = none ↔ ∀ p k, RunAt b w p k → k % 2 = 0 ∧ p + k < w.length := by
  constructor
  · intro h p k hr
    have hs := findRun_spec b w
    rw [h] at hs
    exact escaped_of_paired hs.1 hs.2 hr
  · intro hall
    cases hf : findRun b w with
    | none => rfl
    | some r =>
      obtain ⟨⟨hr, hstop⟩, -⟩ := firstStop_of_findRun hf
      have := hall _ _ hr
      omega

theorem findRun_eq_some_iff : findRun b w = some (p, k) ↔ FirstStop b w p k := by
  constructor
  · exact firstStop_of_findRun
  · intro hf
    cases hr : findRun b w with
    | none =>
      have := findRun_eq_none_iff.mp hr p k hf.1.1
      rcases hf.1.2 with h | h <;> omega
    | some r =>
      obtain ⟨p', k'⟩ := r
      obtain ⟨rfl, rfl⟩ := (firstStop_of_findRun hr).unique hf
      rfl

end Scan

section Window
variable {cs : List Char} {b : Char} {start stop : Nat} {pick : RunPick}

theorem findBrace_of_findRun_none (h : findRun b (window cs start stop) = none) :
    findBrace cs b start stop pick = stop := by
  rw [findBrace, h]

theorem findBrace_of_findRun_some {p k : Nat} (h : findRun b (window cs start stop) = some (p, k)) :
    findBrace cs b start stop pick = start + pick.position p k := by
  rw [findBrace, h]

theorem length_window (hstop : stop ≤ cs.length) : (window cs start stop).length = stop - start := by
  simp only [window, List.length_take, List.length_drop]
  omega

theorem getElem?_window {i : Nat} (hi : i < stop - start) :
    (window cs start stop)[i]? = cs[start + i]? := by
  rw [window, List.getElem?_take_of_lt hi, List.getElem?_drop]

end Window

/-- What the scan of `cs[start:stop]` for `b` may report as `n`. -/
structure Reports (cs : List Char) (b : Char) (start stop : Nat) (pick : RunPick) (n : Nat) :
    Prop where
  end_iff : n = stop ↔
    ∀ p k, RunAt b (window cs start stop) p k → k % 2 = 0 ∧ p + k < stop - start
  first_stop : ∀ p k, FirstStop b (window cs start stop) p k → n = start + pick.position p k
  start_le : start ≤ n
  le_stop : n ≤ stop
  brace : n < stop → cs[n]? = some b

/-- The brace scan over `cs[start:stop]` reports the end when every run of the brace is even and
followed by another character, and otherwise the first or last brace of the first run that is
odd or reaches the end; its answer lies in `[start, stop]` and is a brace when below `stop`. -/
theorem findBrace_reports (cs : List Char) (b : Char) (start stop : Nat) (pick : RunPick)
    (hle : start ≤ stop) (hstop : stop ≤ cs.length) :
    Reports cs b start stop pick (findBrace cs b start stop pick) := by
  have hlen : (window cs start stop).length = stop - start := length_window hstop
  cases hf : findRun b (window cs start stop) with
  | none =>
    have hall := findRun_eq_none_iff.mp hf
    rw [hlen] at hall
    rw [findBrace_of_findRun_none hf]
    refine ⟨iff_of_true rfl hall, fun p k hs => ?_, hle, Nat.le_refl stop, fun h => absurd h (by omega)⟩
    have := findRun_eq_some_iff.mpr hs
    rw [hf] at this
    cases this
  | some r =>
    obtain ⟨p, k⟩ := r
    have hs := findRun_eq_some_iff.mp hf
    have hk := hs.1.1.1
    have hend := hs.1.1.le_length
    have hpos : p ≤ pick.position p k ∧ pick.position p k < p + k := pick.position_mem hk
    rw [hlen] at hend
    rw [findBrace_of_findRun_some hf]
    refine ⟨iff_of_false (by omega) fun hall => ?_, fun p' k' hs' => ?_, by omega, by omega,
      fun _ => ?_⟩
    · have := hall p k hs.1.1
      rcases hs.1.2 with h | h <;> omega
    · obtain ⟨rfl, rfl⟩ := hs.unique hs'
      rfl
    · have hw : (window cs start stop)[pick.position p k]? = cs[start + pick.position p k]? :=
        getElem?_window (by omega)
      rw [← hw]
      exact hs.1.1.2.1 _ hpos.1 hpos.2

/-- In `x}}a}}}b` from position 1, the doubled `}` is escaped and the scan for a closing brace
stops at the first brace of the odd run after it. -/
theorem findBrace_reports_escaped_close :
    1 ≤ 8 ∧ 8 ≤ ['x', '}', '}', 'a', '}', '}', '}', 'b'].length ∧
      Reports ['x', '}', '}', 'a', '}', '}', '}', 'b'] '}' 1 8 .first
        (findBrace ['x', '}', '}', 'a', '}', '}', '}', 'b'] '}' 1 8 .first) :=
  ⟨by decide, by decide, findBrace_reports _ _ _ _ _ (by decide) (by decide)⟩

example : findBrace ['x', '}', '}', 'a', '}', '}', '}', 'b'] '}' 1 8 .first = 4 := by decide

example : findBrace ['{', '{', '{', 'a'] '{' 0 4 .last = 2 := by decide

end MessageTemplate.Template
