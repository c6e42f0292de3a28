import MessageTemplate.Numeric.Standard
import Mathlib
/-! The exact values of binary numbers. -/
namespace MessageTemplate.Binary

/-- The value of a finite number; NaN and the infinities have none. -/
def toRat? : Binary → Option ℚ
  | .finite neg m e => some ((if neg then -1 else 1) * (m * 2 ^ e))
  | _ => none

/-- `m * 2^e` for a non-negative exponent is a natural number. -/
theorem mul_zpow_of_nonneg (m : Nat) {e : Int} (he : 0 ≤ e) :
    (m : ℚ) * 2 ^ e = ((m * Nat.pow 2 e.toNat : Nat) : ℚ) := by
  obtain ⟨k, rfl⟩ : ∃ k : Nat, e = k := ⟨e.toNat, (Int.toNat_of_nonneg he).symm⟩
  rw [zpow_natCast, Int.toNat_natCast, Nat.pow_eq]
  push_cast
  rfl

theorem cmpMag_eq_lt_iff (m1 : Nat) (e1 : Int) (m2 : Nat) (e2 : Int) :
    cmpMag m1 e1 m2 e2 = .lt ↔ (m1 : ℚ) * 2 ^ e1 < m2 * 2 ^ e2 := by
  have hscale : ∀ (m : Nat) (e : Int), min e1 e2 ≤ e →
      ((m * Nat.pow 2 (e - min e1 e2).toNat : Nat) : ℚ) = m * 2 ^ e * (2 ^ min e1 e2)⁻¹ := by
    intro m e he
    rw [← mul_zpow_of_nonneg m (by omega : 0 ≤ e - min e1 e2), zpow_sub₀ two_ne_zero, div_eq_mul_inv,
      mul_assoc]
  have hpos : (0 : ℚ) < (2 ^ min e1 e2)⁻¹ := by positivity
  rw [cmpMag, Nat.compare_eq_lt, ← Nat.cast_lt (α := ℚ), hscale m1 e1 (min_le_left _ _),
    hscale m2 e2 (min_le_right _ _)]
  exact mul_lt_mul_iff_left₀ hpos

/-- A negative exponent is the negation of a natural one. -/
theorem exists_neg_of_lt_zero {e : Int} (he : ¬0 ≤ e) : ∃ k : Nat, 0 < k ∧ e = -(k : Int) :=
  ⟨(-e).toNat, by omega, by omega⟩

/-- An integral finite number is the integer its truncation gives. -/
theorem toRat?_of_isIntegral {s : Bool} {m : Nat} {e : Int} (h : (finite s m e).isIntegral = true) :
    ∃ n : Int, (finite s m e).truncInt? = some n ∧ (finite s m e).toRat? = some (n : ℚ) := by
  by_cases he : 0 ≤ e
  · refine ⟨if s then -((m * Nat.pow 2 e.toNat : Nat) : Int) else (m * Nat.pow 2 e.toNat : Nat),
      by simp [truncInt?, he], ?_⟩
    simp only [toRat?, mul_zpow_of_nonneg m he]
    cases s <;> simp
  · -- a negative exponent: the integral test says `2^k` divides the significand
    obtain ⟨k, hk, rfl⟩ := exists_neg_of_lt_zero he
    obtain ⟨q, rfl⟩ : Nat.pow 2 k ∣ m :=
      Nat.dvd_of_mod_eq_zero (by simpa [isIntegral, hk.ne'] using h)
    refine ⟨if s then -(q : Int) else q, by simp [truncInt?, hk.ne', Nat.pow_eq], ?_⟩
    have hq : ((Nat.pow 2 k * q : Nat) : ℚ) * (2 ^ k)⁻¹ = q := by
      rw [Nat.pow_eq]
      push_cast
      field_simp
    simp only [toRat?, zpow_neg, zpow_natCast, hq]
    cases s <;> simp

/-- A finite number whose integral test fails is no integer. -/
theorem toRat?_ne_int_of_isIntegral_false {s : Bool} {m : Nat} {e : Int}
    (h : (finite s m e).isIntegral = false) (n : Int) : (finite s m e).toRat? ≠ some (n : ℚ) := by
  have he : ¬0 ≤ e := fun he => by simp [isIntegral, he] at h
  obtain ⟨k, hk, rfl⟩ := exists_neg_of_lt_zero he
  have hmod : m % Nat.pow 2 k ≠ 0 := by simpa [isIntegral, hk.ne'] using h
  intro hv
  -- `m * 2^(-k) = ±n` makes `m` a multiple of `2^k`
  simp only [toRat?, zpow_neg, zpow_natCast, Option.some.injEq] at hv
  have hm : (m : ℚ) = (((if s then -n else n) * 2 ^ k : Int) : ℚ) := by
    have hpow : (2 : ℚ) ^ k ≠ 0 := pow_ne_zero k two_ne_zero
    cases s <;> simp at hv ⊢ <;> field_simp at hv <;> linarith
  have hz : (m : Int) = (if s then -n else n) * 2 ^ k := by exact_mod_cast hm
  apply hmod
  rw [Nat.pow_eq]
  exact Nat.mod_eq_zero_of_dvd
    (Int.natCast_dvd_natCast.mp ⟨if s then -n else n, by push_cast; rw [hz, mul_comm]⟩)

/-- The magnitude of a finite number's value. -/
theorem abs_of_toRat? {s : Bool} {m : Nat} {e : Int} {q : ℚ} (h : (finite s m e).toRat? = some q) :
    |q| = m * 2 ^ e := by
  simp only [toRat?, Option.some.injEq] at h
  subst h
  have hnonneg : (0 : ℚ) ≤ m * 2 ^ e := by positivity
  cases s <;> simp [abs_of_nonneg hnonneg]

theorem ofInt_two_pow_63 :
    ofInt FloatFormat.double (Int.pow 2 63) = .finite false (Nat.pow 2 52) 11 := by
  decide

/-- A finite number's magnitude compares below the float `2^63` exactly when its value does. -/
theorem lt_two_pow_63_iff (s : Bool) (m : Nat) (e : Int) :
    lt (finite s m e).abs (ofInt FloatFormat.double (Int.pow 2 63)) = true ↔
      (m : ℚ) * 2 ^ e < 2 ^ 63 := by
  rw [ofInt_two_pow_63]
  by_cases hm : m = 0
  · subst hm
    simp [lt, abs, order, isNaN]
  · have h63 : (2 : ℚ) ^ 63 = ((Nat.pow 2 52 : Nat) : ℚ) * 2 ^ (11 : Int) := by norm_num
    have hne : Nat.pow 2 52 ≠ 0 := by decide
    simp only [lt, abs, order, isNaN, hm, hne, decide_false, Bool.and_false, if_false,
      Bool.not_false, Bool.true_and, ne_eq, not_true_eq_false, beq_iff_eq, Bool.false_eq_true]
    rw [h63, ← cmpMag_eq_lt_iff]

end MessageTemplate.Binary
