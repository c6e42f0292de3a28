import MessageTemplate.Proofs.Numeric.Exact
/-! Decimal digits of integral values. -/
namespace MessageTemplate.Decimal

/-! ### Trailing zeros -/

theorem normalize_append_zeros (ds : List Nat) (k : Nat) (point : Int) :
    normalize (ds ++ List.replicate k 0) point = normalize ds point := by
  simp [normalize, List.reverse_append]

theorem eq_trimmed_append_zeros (ds : List Nat) :
    ∃ j, ds = (ds.reverse.dropWhile (· = 0)).reverse ++ List.replicate j 0 := by
  have hzeros : ds.reverse.takeWhile (· = 0) =
      List.replicate (ds.reverse.takeWhile (· = 0)).length 0 := by
    refine List.eq_replicate_iff.mpr ⟨rfl, fun x hx => ?_⟩
    simpa using List.mem_takeWhile_imp hx
  refine ⟨(ds.reverse.takeWhile (· = 0)).length, ?_⟩
  calc ds = (ds.reverse.takeWhile (· = 0) ++ ds.reverse.dropWhile (· = 0)).reverse := by
        rw [List.takeWhile_append_dropWhile, List.reverse_reverse]
    _ = (ds.reverse.dropWhile (· = 0)).reverse ++ (ds.reverse.takeWhile (· = 0)).reverse :=
        List.reverse_append
    _ = _ := congrArg _ (by conv_lhs => rw [hzeros, List.reverse_replicate])

/-! ### The digits of a natural number -/

theorem toDigits_mul_ten {M : Nat} (hM : 0 < M) :
    Nat.toDigits 10 (M * 10) = Nat.toDigits 10 M ++ ['0'] := by
  rw [← Nat.toDigits_zero 10, Nat.toDigits_append_toDigits (by decide) hM (by decide)]
  congr 1
  omega

theorem natDigits_of_pos {M : Nat} (hM : 0 < M) :
    natDigits M = (Nat.toDigits 10 M).map (·.toNat - 48) := by
  simp [natDigits, Nat.pos_iff_ne_zero.mp hM]

theorem natDigits_mul_ten_pow {N : Nat} (hN : 0 < N) (k : Nat) :
    natDigits (N * Nat.pow 10 k) = natDigits N ++ List.replicate k 0 := by
  induction k with
  | zero => simp [Nat.pow_eq]
  | succ k ih =>
    have hpos : 0 < N * Nat.pow 10 k := Nat.mul_pos hN (by simp [Nat.pow_eq])
    have hstep : N * Nat.pow 10 (k + 1) = N * Nat.pow 10 k * 10 := by
      simp [Nat.pow_eq, Nat.pow_succ, Nat.mul_assoc]
    rw [hstep, natDigits_of_pos (by omega), toDigits_mul_ten hpos, List.map_append,
      ← natDigits_of_pos hpos, ih, List.replicate_succ', List.append_assoc]
    rfl

theorem head?_toDigits_ne_zero {N : Nat} (hN : 0 < N) : (Nat.toDigits 10 N).head? ≠ some '0' := by
  induction N using Nat.strong_induction_on with
  | _ N ih =>
    rw [Nat.toDigits_eq_if (by decide)]
    split
    case isTrue hlt =>
      interval_cases N <;> decide
    case isFalse hge =>
      have hdiv : 0 < N / 10 := by omega
      have hne := ih (N / 10) (by omega) hdiv
      rw [List.head?_append]
      cases h : (Nat.toDigits 10 (N / 10)).head? with
      | none => exact absurd h (by simp [Nat.toDigits_ne_nil])
      | some c => simpa [h] using hne

theorem digitChar_sub {c : Char} (hc : c.isDigit = true) : Notation.digitChar (c.toNat - 48) = c := by
  have h48 : 48 ≤ c.toNat := by
    simp only [Char.isDigit, Bool.and_eq_true, decide_eq_true_eq] at hc
    exact hc.1
  unfold Notation.digitChar
  rw [Nat.add_sub_cancel' h48, Char.ofNat_toNat]

theorem exists_ne_zero_natDigits {N : Nat} (hN : 0 < N) : ∃ d ∈ natDigits N, d ≠ 0 := by
  obtain ⟨c, hc⟩ := Option.ne_none_iff_exists'.mp
    (by simp [Nat.toDigits_ne_nil] : (Nat.toDigits 10 N).head? ≠ none)
  have hmem : c ∈ Nat.toDigits 10 N := List.mem_of_mem_head? hc
  refine ⟨c.toNat - 48, by rw [natDigits_of_pos hN]; exact List.mem_map_of_mem hmem, fun h0 => ?_⟩
  -- the digit of value `0` is the character `0`
  have hzero : c = '0' := by
    rw [← digitChar_sub (Nat.isDigit_of_mem_toDigits (by decide) (by decide) hmem), h0]
    rfl
  exact head?_toDigits_ne_zero hN (hzero ▸ hc)

theorem ofNat_zero : ofNat 0 = zero := rfl

theorem ofNat_of_pos {N : Nat} (hN : 0 < N) :
    ofNat N = ⟨((natDigits N).reverse.dropWhile (· = 0)).reverse, (Nat.toDigits 10 N).length⟩ := by
  obtain ⟨d, hd, hne⟩ := exists_ne_zero_natDigits hN
  have hkept : ((natDigits N).reverse.dropWhile (· = 0)).reverse.isEmpty = false := by
    simp only [List.isEmpty_reverse, List.isEmpty_eq_false_iff, ne_eq, List.dropWhile_eq_nil_iff,
      List.mem_reverse, decide_eq_true_eq, not_forall]
    exact ⟨d, hd, hne⟩
  simp only [ofNat, normalize, hkept, Bool.false_eq_true, if_false]
  simp [natDigits_of_pos hN]

/-! ### Exact expansions of integral values -/

/-- The exact expansion of `m * 2^e` when that is the natural number `N`, whatever the sign of
the exponent: for a negative one, `m * 5^k` is `N * 10^k`, whose extra zeros normalising drops. -/
theorem ofMantExp_of_value {m : Nat} {e : Int} {N : Nat} (h : (m : ℚ) * 2 ^ e = N) :
    ofMantExp m e = ofNat N := by
  by_cases he : 0 ≤ e
  · rw [Binary.mul_zpow_of_nonneg m he, Nat.cast_inj] at h
    rw [ofMantExp, if_pos he, ← h]
  · obtain ⟨k, -, rfl⟩ := Binary.exists_neg_of_lt_zero he
    -- `m = N * 2^k`
    have hm : m = N * Nat.pow 2 k := by
      have hpow : (2 : ℚ) ^ k ≠ 0 := pow_ne_zero k two_ne_zero
      rw [zpow_neg, zpow_natCast] at h
      have : (m : ℚ) = ((N * Nat.pow 2 k : Nat) : ℚ) := by
        push_cast [Nat.pow_eq]
        field_simp at h
        linarith
      exact_mod_cast this
    have hten : m * Nat.pow 5 k = N * Nat.pow 10 k := by
      simp only [hm, Nat.pow_eq, Nat.mul_assoc, ← Nat.mul_pow]
    rcases Nat.eq_zero_or_pos N with rfl | hN
    · obtain rfl : m = 0 := by simpa using hm
      simp [ofMantExp, natDigits, ofNat, normalize]
    · simp only [ofMantExp, he, if_false, hten, natDigits_mul_ten_pow hN, List.length_append,
        List.length_replicate, Int.neg_neg, Int.toNat_natCast, normalize_append_zeros]
      rw [ofNat]
      congr 1
      omega

theorem roundAt_of_length_le {d : Decimal} {nd : Int} (h : (d.digits.length : Int) ≤ nd) :
    d.roundAt nd = d := by
  simp [roundAt, h]

theorem point_ofNat_of_pos {N : Nat} (hN : 0 < N) : (ofNat N).point = (Nat.toDigits 10 N).length := by
  rw [ofNat_of_pos hN]

theorem length_digits_ofNat_le (N : Nat) :
    (ofNat N).digits.length ≤ (Nat.toDigits 10 N).length := by
  rcases Nat.eq_zero_or_pos N with rfl | hN
  · simp [ofNat_zero, zero]
  · rw [ofNat_of_pos hN, List.length_reverse, natDigits_of_pos hN]
    exact (List.length_dropWhile_le _ _).trans (by simp)

theorem length_digits_ofNat_le_point (N : Nat) :
    ((ofNat N).digits.length : Int) ≤ (ofNat N).point := by
  rcases Nat.eq_zero_or_pos N with rfl | hN
  · simp [ofNat_zero, zero]
  · have h := length_digits_ofNat_le N
    rw [point_ofNat_of_pos hN]
    omega

theorem getD_trimmed (ds : List Nat) (i : Nat) :
    ((ds.reverse.dropWhile (· = 0)).reverse).getD i 0 = ds.getD i 0 := by
  obtain ⟨j, hj⟩ := eq_trimmed_append_zeros ds
  conv_rhs => rw [hj]
  rcases Nat.lt_or_ge i ((ds.reverse.dropWhile (· = 0)).reverse).length with hi | hi
  · rw [List.getD_append _ _ _ _ hi]
  · rw [List.getD_eq_default _ _ hi, List.getD_append_right _ _ _ _ hi]
    simp only [List.getD_eq_getElem?_getD, List.getElem?_replicate]
    split <;> rfl

end MessageTemplate.Decimal

namespace MessageTemplate.Notation

open Decimal

/-- Fixed notation without fraction digits writes a natural number's decimal digits. -/
theorem fixed_ofNat (neg : Bool) (N : Nat) :
    fixed neg (ofNat N) 0 = String.ofList ((if neg then ['-'] else []) ++ Nat.toDigits 10 N) := by
  rcases Nat.eq_zero_or_pos N with rfl | hN
  · simp [fixed, ofNat_zero, zero]
  · have hpoint : (0 : Int) < (Nat.toDigits 10 N).length := by
      simp [List.length_pos_iff, Nat.toDigits_ne_nil]
    -- the integer part reads every digit back through its value
    have hint : (List.range (Nat.toDigits 10 N).length).map
        (fun i : Nat => digitAt (ofNat N) (i : Int)) = Nat.toDigits 10 N := by
      refine List.ext_getElem (by simp) fun i h₁ h₂ => ?_
      simp only [List.getElem_map, List.getElem_range, digitAt, Int.natCast_nonneg, if_true,
        Int.toNat_natCast]
      rw [ofNat_of_pos hN]
      dsimp only
      rw [getD_trimmed, natDigits_of_pos hN, List.getD_eq_getElem?_getD, List.getElem?_map,
        List.getElem?_eq_getElem h₂, Option.map_some, Option.getD_some,
        digitChar_sub (Nat.isDigit_of_mem_toDigits (by decide) (by decide) (List.getElem_mem h₂))]
    simp only [fixed, point_ofNat_of_pos hN, hpoint, if_true, Int.toNat_natCast, hint, Nat.lt_irrefl, if_false,
      List.append_nil]

/-- General notation with at least as many digits of precision as a natural number has writes it
in fixed notation, without fraction digits. -/
theorem general_ofNat (neg : Bool) (N : Nat) {q : Nat} (hq : 0 < q)
    (hlen : (Nat.toDigits 10 N).length ≤ q) (marker : Char) :
    general neg (ofNat N) q false marker = fixed neg (ofNat N) 0 := by
  have hnd := length_digits_ofNat_le N
  have hle := length_digits_ofNat_le_point N
  rcases Nat.eq_zero_or_pos N with rfl | hN
  · simp [general, ofNat_zero, zero, hq]
  · -- the exponent `L - 1` is neither below `-4` nor past the precision, and no fraction digit
    -- is asked for
    have hL : 0 < (Nat.toDigits 10 N).length := by
      simp [List.length_pos_iff, Nat.toDigits_ne_nil]
    unfold general
    simp only [point_ofNat_of_pos hN, Bool.false_eq_true, if_false]
    rw [if_neg]
    · congr 1
      split <;> omega
    · simp only [Bool.or_eq_true, decide_eq_true_eq, not_or]
      split <;> rename_i h <;> simp only [Bool.and_eq_true, decide_eq_true_eq] at h <;> omega

end MessageTemplate.Notation

namespace MessageTemplate.Binary

/-- A finite number whose magnitude is the natural number `N`: fixed notation without fraction
digits, and general notation with at least as many digits of precision as `N` has, write its
sign and the decimal digits of `N`. -/
theorem toText_of_value {s : Bool} {m : Nat} {e : Int} {N : Nat} (h : (m : ℚ) * 2 ^ e = N)
    (f : FloatFormat) :
    toText f (finite s m e) 'f' 0 =
      String.ofList ((if s then ['-'] else []) ++ Nat.toDigits 10 N) ∧
    ∀ q : Nat, 0 < q → (Nat.toDigits 10 N).length ≤ q →
      toText f (finite s m e) 'g' q =
        String.ofList ((if s then ['-'] else []) ++ Nat.toDigits 10 N) := by
  have hexact := Decimal.ofMantExp_of_value h
  have hpoint := Decimal.length_digits_ofNat_le_point N
  refine ⟨?_, fun q hq hlen => ?_⟩
  · simp [toText, hexact]
    rw [Decimal.roundAt_of_length_le hpoint, Notation.fixed_ofNat, String.ofList_append]
  · have hround : (Decimal.ofNat N).roundAt q = Decimal.ofNat N :=
      Decimal.roundAt_of_length_le (by have := Decimal.length_digits_ofNat_le N; omega)
    have hnonneg : ¬((q : Int) < 0) := by omega
    simp [toText, hexact, hq.ne', hround, hnonneg, Notation.general_ofNat _ _ hq hlen,
      Notation.fixed_ofNat]

end MessageTemplate.Binary
