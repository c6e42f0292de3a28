import MessageTemplate.Command.Interpolate
/-! Looking up one pair against listing them all. -/
namespace MessageTemplate

theorem PairError.message_out_of_range (e : PairError) :
    ∃ pre, e.message = pre ++ ": " ++ outOfRangeText := by
  cases e with
  | pairOutOfRange i n => exact ⟨"pair " ++ toString i ++ " of " ++ toString n, rfl⟩
  | valueOutOfRange i n => exact ⟨"value " ++ toString i ++ " of " ++ toString n, rfl⟩

namespace Template

variable (t : Template) (values : List Value)

@[simp] theorem length_pairs : (t.pairs values).length = t.len := by
  simp [pairs, len]

theorem getElem?_pairs_of_lt {k : Nat} (hk : k < t.names.length) :
    (t.pairs values)[k]? = some ⟨t.names[k], values.getD k .null⟩ := by
  simp [pairs, List.getElem?_append_left, hk]

theorem getElem?_pairs_last :
    (t.pairs values)[t.names.length]? = some ⟨originalFormatKey, .str t.original⟩ := by
  simp [pairs]

/-- A lookup by where its index falls: outside the pairs, at the written template, at a name
without a value, or at a name with one. -/
theorem pair_cases (i : Int) :
    ((i < 0 ∨ t.names.length < i) ∧ t.pair values i = .error (.pairOutOfRange i t.len)) ∨
    (i = t.names.length ∧ t.pair values i = .ok ⟨originalFormatKey, .str t.original⟩) ∨
    (∃ k : Nat, i = k ∧ k < t.names.length ∧ values.length ≤ k ∧
      t.pair values i = .error (.valueOutOfRange i values.length)) ∨
    (∃ k : Nat, i = k ∧ ∃ hk : k < t.names.length, ∃ hv : k < values.length,
      t.pair values i = .ok ⟨t.names[k], values[k]⟩) := by
  by_cases hout : i < 0 ∨ t.names.length < i
  · left
    exact ⟨hout, by simp [pair, hout]⟩
  · right
    obtain ⟨k, rfl⟩ : ∃ k : Nat, i = k := ⟨i.toNat, by omega⟩
    have hin : ¬((k : Int) < 0 ∨ t.names.length < k) := by omega
    rcases Nat.lt_or_ge k t.names.length with hlt | hge
    · have hne : (k : Int) ≠ t.names.length := by omega
      right
      rcases Nat.lt_or_ge k values.length with hv | hv
      · right
        exact ⟨k, rfl, hlt, hv, by simp [pair, hin, hne, hv, hlt]⟩
      · left
        exact ⟨k, rfl, hlt, hv, by simp [pair, hin, hne, List.getElem?_eq_none hv]⟩
    · obtain rfl : k = t.names.length := by omega
      left
      exact ⟨rfl, by simp [pair]⟩

theorem pair_fails_iff (i : Int) :
    (∃ e, t.pair values i = .error e) ↔
      i < 0 ∨ t.names.length < i ∨ (i < t.names.length ∧ values.length ≤ i) := by
  rcases pair_cases t values i with ⟨hout, h⟩ | ⟨rfl, h⟩ | ⟨k, rfl, hk, hv, h⟩ | ⟨k, rfl, hk, hv, h⟩
  · exact ⟨fun _ => by omega, fun _ => ⟨_, h⟩⟩
  · simp [h]
  · exact ⟨fun _ => .inr (.inr ⟨by omega, by omega⟩), fun _ => ⟨_, h⟩⟩
  · simp only [h, reduceCtorEq, exists_false, false_iff]
    omega

theorem pair_ok_getElem?_pairs {i : Int} {p : Pair} (h : t.pair values i = .ok p) :
    0 ≤ i ∧ (t.pairs values)[i.toNat]? = some p := by
  rcases pair_cases t values i with ⟨-, h'⟩ | ⟨rfl, h'⟩ | ⟨k, rfl, -, -, h'⟩ | ⟨k, rfl, hk, hv, h'⟩
  · rw [h'] at h
    cases h
  · rw [h'] at h
    cases h
    simpa using getElem?_pairs_last t values
  · rw [h'] at h
    cases h
  · rw [h'] at h
    cases h
    simpa [List.getD_eq_getElem?_getD, hv] using getElem?_pairs_of_lt t values hk

end Template

namespace Command

open Template

/-- The `--pairs` report over indices up to the number of names stops, if at all, at a name the
template has: its error message quotes that name. -/
theorem pairLines_error_names {t : Template} {values : List Value} {is : List Nat} {out msg : String}
    (hle : ∀ i ∈ is, i ≤ t.names.length) (h : (pairLines t values is out).error = some msg) :
    ∃ k, ∃ hk : k < t.names.length, ∃ e : PairError,
      msg = "value for " ++ Text.quote t.names[k] ++ ": " ++ e.message := by
  induction is generalizing out with
  | nil => simp [pairLines] at h
  | cons i is ih =>
    have hi := hle i List.mem_cons_self
    have hrest : ∀ j ∈ is, j ≤ t.names.length := fun j hj => hle j (List.mem_cons_of_mem i hj)
    rcases pair_cases t values i with ⟨hout, hp⟩ | ⟨hlast, hp⟩ | ⟨k, hk, hkn, -, hp⟩ |
        ⟨k, -, hkn, hv, hp⟩
    · omega
    · simp only [pairLines, hp] at h
      exact ih hrest h
    · obtain rfl : k = i := by omega
      simp only [pairLines, hp, Run.failed, Option.some.injEq] at h
      exact ⟨k, hkn, _, by rw [← h, List.getD_eq_getElem?_getD, List.getElem?_eq_getElem hkn]; rfl⟩
    · simp only [pairLines, hp] at h
      exact ih hrest h

end Command

namespace Template

/-- Looking up one pair agrees with listing them all. With `n` names, a lookup at `i` fails, with
an out-of-range error, exactly when `i < 0`, `i > n`, or `i < n` has no value; otherwise it gives
the `i`-th listed pair. The list has `n + 1` pairs: each name with its value (no value past the
values given), then the written template under `{OriginalFormat}`. Bound values look up and list
the same pairs, and the `--pairs` report stops only at a name the template has. -/
theorem pair_agrees_with_pairs (raw : String) (values : List Value) (i : Int) :
    let t := compile raw
    let n := t.names.length
    ((∃ e, t.pair values i = .error e) ↔ i < 0 ∨ n < i ∨ (i < n ∧ values.length ≤ i)) ∧
    (∀ e, t.pair values i = .error e → ∃ pre, e.message = pre ++ ": " ++ outOfRangeText) ∧
    (¬(i < 0 ∨ n < i ∨ (i < n ∧ values.length ≤ i)) →
      ∃ p, t.pair values i = .ok p ∧ (t.pairs values)[i.toNat]? = some p) ∧
    (t.pairs values).length = t.len ∧ t.len = n + 1 ∧
    (∀ k (hk : k < n), (t.pairs values)[k]? = some ⟨t.names[k], values.getD k .null⟩) ∧
    (t.pairs values)[n]? = some ⟨originalFormatKey, .str raw⟩ ∧
    (Bound.mk t values).pairAt i = t.pair values i ∧ (Bound.mk t values).pairs = t.pairs values ∧
    (Bound.mk t values).len = t.len ∧
    ∀ msg, (Command.pairLines t values (List.range t.len) "").error = some msg →
      ∃ k, ∃ hk : k < n, ∃ e : PairError,
        msg = "value for " ++ Text.quote t.names[k] ++ ": " ++ e.message := by
  intro t n
  have hfails := pair_fails_iff t values i
  refine ⟨hfails, fun e _ => e.message_out_of_range, fun hok => ?_, length_pairs _ _, rfl,
    fun k hk => getElem?_pairs_of_lt _ _ hk, getElem?_pairs_last _ _, rfl, rfl, rfl,
    fun msg h => Command.pairLines_error_names (fun j hj => ?_) h⟩
  · -- a lookup that does not fail succeeds, with the listed pair
    cases hp : t.pair values i with
    | error e => exact absurd (hfails.mp ⟨e, hp⟩) hok
    | ok p => exact ⟨p, rfl, (pair_ok_getElem?_pairs _ _ hp).2⟩
  · simpa [len, Nat.lt_succ_iff] using hj

end Template

end MessageTemplate
