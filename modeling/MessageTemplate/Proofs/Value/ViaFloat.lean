import MessageTemplate.Proofs.Value.Integers
import MessageTemplate.Proofs.Numeric.Digits
/-! Integers under the specifiers that go through the nearest 64-bit float. -/
namespace MessageTemplate

namespace Binary

theorem roundRatio_signBit (f : FloatFormat) (neg : Bool) (num den : Nat) :
    (roundRatio f neg num den).signBit = neg := by
  unfold roundRatio
  split
  · rfl
  · dsimp only
    split_ifs <;> rfl

theorem toRat?_signed_iff (v : Int) (m : Nat) (e : Int) :
    (finite (decide (v < 0)) m e).toRat? = some (v : ℚ) ↔ (m : ℚ) * 2 ^ e = v.natAbs := by
  rw [Nat.cast_natAbs, Int.cast_abs]
  simp only [toRat?, Option.some.injEq]
  by_cases hv : v < 0
  · have hneg : (v : ℚ) < 0 := by exact_mod_cast hv
    simp only [hv, decide_true, if_true, abs_of_neg hneg]
    constructor <;> intro h <;> linarith
  · have hnonneg : (0 : ℚ) ≤ v := by exact_mod_cast not_lt.mp hv
    simp [hv, abs_of_nonneg hnonneg]

theorem ofInt_of_exact {f : FloatFormat} {v : Int} (h : (ofInt f v).toRat? = some (v : ℚ)) :
    ∃ m e, ofInt f v = .finite (decide (v < 0)) m e ∧ (m : ℚ) * 2 ^ e = v.natAbs := by
  have hsign : (ofInt f v).signBit = decide (v < 0) := roundRatio_signBit _ _ _ _
  cases hx : ofInt f v with
  | nan => simp [hx, toRat?] at h
  | inf => simp [hx, toRat?] at h
  | finite s m e =>
    rw [hx] at h hsign
    obtain rfl : s = decide (v < 0) := hsign
    exact ⟨m, e, rfl, (toRat?_signed_iff v m e).mp h⟩

theorem scaledDiv_one_of_nonpos (num : Nat) {e : Int} (he : e ≤ 0) :
    scaledDiv num 1 e = (num * Nat.pow 2 (-e).toNat, 0, 1) := by
  by_cases h0 : e = 0
  · subst h0
    simp [scaledDiv, Nat.mod_one]
  · simp [scaledDiv, show ¬0 ≤ e by omega, Nat.mod_one]

/-- Below `2^p` the binade of a positive integer has an exponent of at most zero. -/
theorem binadeExp_one_nonpos {p num : Nat} (h0 : num ≠ 0) (hlt : num < 2 ^ p) :
    binadeExp p num 1 ≤ 0 := by
  have hlog : num.log2 < p := (Nat.log2_lt h0).mpr hlt
  have hone : Nat.log2 1 = 0 := by decide
  -- the first guess `log2 num - (p - 1)` already leaves the quotient below `2^p`
  have hguess : (scaledDiv num 1 ((num.log2 : Int) - (Nat.log2 1 : Int) - ((p : Int) - 1))).1
      < Nat.pow 2 p := by
    have hk : (-((num.log2 : Int) - (Nat.log2 1 : Int) - ((p : Int) - 1))).toNat =
        p - 1 - num.log2 := by
      simp only [hone]
      omega
    rw [scaledDiv_one_of_nonpos num (by simp only [hone]; omega), hk, Nat.pow_eq]
    calc num * 2 ^ (p - 1 - num.log2)
        < 2 ^ (num.log2 + 1) * 2 ^ (p - 1 - num.log2) :=
          Nat.mul_lt_mul_of_pos_right Nat.lt_log2_self (Nat.two_pow_pos _)
      _ = 2 ^ p := by rw [← Nat.pow_add]; congr 1; omega
  unfold binadeExp
  dsimp only
  split_ifs <;> simp only [hone] at * <;> omega

/-- A positive integer below `2^53` is a 64-bit float: its binade exponent is at most zero, so
the significand is the integer shifted left, with no remainder to round. -/
theorem roundRatio_one_exact (neg : Bool) {num : Nat} (h0 : num ≠ 0) (hlt : num < 2 ^ 53) :
    ∃ m e, roundRatio FloatFormat.double neg num 1 = .finite neg m e ∧ (m : ℚ) * 2 ^ e = num := by
  have he0 : max (binadeExp FloatFormat.double.precision num 1) FloatFormat.double.minExp ≤ 0 :=
    max_le (binadeExp_one_nonpos h0 hlt) (by decide)
  simp only [roundRatio, if_neg h0, scaledDiv_one_of_nonpos num he0, Nat.mul_zero,
    Nat.not_lt_zero, gt_iff_lt, zero_ne_one, decide_false, Bool.false_and, Bool.false_or,
    Bool.false_eq_true, if_false]
  generalize max (binadeExp FloatFormat.double.precision num 1) FloatFormat.double.minExp = e
    at he0 ⊢
  -- the quotient is `num * 2^k` for `e = -k`, with nothing left over
  obtain ⟨k, rfl⟩ : ∃ k : Nat, e = -(k : Int) := ⟨(-e).toNat, by omega⟩
  have hscaled : ((num * Nat.pow 2 k : Nat) : ℚ) * 2 ^ (-(k : Int)) = num := by
    rw [zpow_neg, zpow_natCast, Nat.pow_eq]
    push_cast
    field_simp
  simp only [neg_neg, Int.toNat_natCast]
  have hmax : FloatFormat.double.maxExp = 971 := by decide
  by_cases hq : num * Nat.pow 2 k = Nat.pow 2 FloatFormat.double.precision
  · -- a carry into the next binade: `2^52 * 2^(1-k)` is the same `2^53 * 2^(-k)`
    simp only [hq, if_true, hmax]
    refine ⟨_, _, if_neg (by omega), ?_⟩
    rw [← hscaled, hq, zpow_add₀ two_ne_zero]
    simp [FloatFormat.double, Nat.pow_eq]
    ring
  · simp only [hq, if_false, hmax]
    exact ⟨_, _, if_neg (by omega), hscaled⟩

/-- Every integer of magnitude at most `2^53` is a 64-bit float. -/
theorem ofInt_exact_of_natAbs_le {v : Int} (hv : v.natAbs ≤ 2 ^ 53) :
    (ofInt FloatFormat.double v).toRat? = some (v : ℚ) := by
  obtain ⟨m, e, hx, hval⟩ : ∃ m e, ofInt FloatFormat.double v = .finite (decide (v < 0)) m e ∧
      (m : ℚ) * 2 ^ e = v.natAbs := by
    rcases Nat.lt_or_eq_of_le hv with hlt | heq
    · by_cases h0 : v.natAbs = 0
      · obtain rfl : v = 0 := Int.natAbs_eq_zero.mp h0
        exact ⟨0, _, rfl, by simp⟩
      · exact roundRatio_one_exact _ h0 hlt
    · -- `2^53` itself is the carry case, `2^52 * 2^1`
      refine ⟨Nat.pow 2 52, 1, ?_, ?_⟩
      · rw [ofInt, heq]
        cases decide (v < 0) <;> decide
      · rw [heq]
        norm_num
  rw [hx]
  exact (toRat?_signed_iff v m e).mpr hval

end Binary

theorem Int.toString_eq_sign_digits (v : Int) :
    toString v = String.ofList ((if v < 0 then ['-'] else []) ++ Nat.toDigits 10 v.natAbs) := by
  cases v with
  | ofNat n =>
    have hn : ¬((n : Int) < 0) := by omega
    simp [Int.toString_eq_repr, Int.repr, Nat.repr_eq_ofList_toDigits, hn]
  | negSucc n =>
    simp [Int.toString_eq_repr, Int.repr, Nat.repr_eq_ofList_toDigits, Int.negSucc_lt_zero,
      String.ofList_cons]

namespace Standard

/-- Upper-casing leaves a sign and decimal digits as they are. -/
theorem upper_sign_digits (neg : Bool) (N : Nat) :
    upper (String.ofList ((if neg then ['-'] else []) ++ Nat.toDigits 10 N)) =
      String.ofList ((if neg then ['-'] else []) ++ Nat.toDigits 10 N) := by
  have hdigit : ∀ c ∈ Nat.toDigits 10 N, c.toUpper = c := by
    intro c hc
    have hd := Nat.isDigit_of_mem_toDigits (by decide) (by decide) hc
    simp only [Char.isDigit, Bool.and_eq_true, decide_eq_true_eq] at hd
    have h57 : c.toNat ≤ 57 := hd.2
    -- a digit is below the lower-case letters
    rw [Char.toUpper, dif_neg]
    intro hlow
    have h97 : 97 ≤ c.toNat := hlow.1
    omega
  rw [upper, String.toList_ofList, List.map_append, List.map_congr_left hdigit, List.map_id']
  cases neg <;> rfl

variable {spec : String} {q : Nat}

theorem formatFloat_general (s : Bool) (m : Nat) (e : Int)
    (hspec : Specifier.read spec = .ok ⟨'G', some q⟩) (hq : 0 < q) :
    formatFloat (.finite s m e) spec =
      .ok (upper ((Binary.finite s m e).toText FloatFormat.double 'g' q)) := by
  simp [formatFloat, Specifier.isEmpty_of_read hspec, hspec, hq]

/-- An integer that the nearest float holds exactly is written by its own digits under `F0`, and
under `G` with a precision of at least its number of digits. -/
theorem formatFloat_ofInt_exact {v : Int}
    (h : (Binary.ofInt FloatFormat.double v).toRat? = some (v : ℚ)) :
    formatFloat (Binary.ofInt FloatFormat.double v) "F0" = .ok (toString v) ∧
    ∀ spec q, Specifier.read spec = .ok ⟨'G', some q⟩ → 0 < q →
      (Nat.toDigits 10 v.natAbs).length ≤ q →
        formatFloat (Binary.ofInt FloatFormat.double v) spec = .ok (toString v) := by
  obtain ⟨m, e, hx, hval⟩ := Binary.ofInt_of_exact h
  have htext := Binary.toText_of_value (s := decide (v < 0)) hval FloatFormat.double
  rw [hx, Int.toString_eq_sign_digits]
  refine ⟨?_, fun spec q hspec hq hlen => ?_⟩
  · show Except.ok ((Binary.finite _ m e).toText FloatFormat.double 'f' 0) = _
    rw [htext.1]
    simp
  · rw [formatFloat_general _ m e hspec hq, htext.2 q hq hlen, upper_sign_digits]
    simp only [decide_eq_true_eq]

theorem formatInt_fixed (bits : Nat) (v : Int) :
    formatInt bits v "F0" = formatFloat (Binary.ofInt FloatFormat.double v) "F0" := rfl

theorem formatInt_general (bits : Nat) (v : Int) (hspec : Specifier.read spec = .ok ⟨'G', some q⟩)
    (hq : 0 < q) :
    formatInt bits v spec = formatFloat (Binary.ofInt FloatFormat.double v) spec := by
  simp [formatInt, Specifier.isEmpty_of_read hspec, hspec, Specifier.precisionOr, hq]

theorem formatUInt_fixed (n : Nat) :
    formatUInt n "F0" = formatFloat (Binary.ofInt FloatFormat.double n) "F0" := rfl

theorem formatUInt_general (n : Nat) (hspec : Specifier.read spec = .ok ⟨'G', some q⟩)
    (hq : 0 < q) :
    formatUInt n spec = formatFloat (Binary.ofInt FloatFormat.double n) spec := by
  simp [formatUInt, Specifier.isEmpty_of_read hspec, hspec, Specifier.precisionOr, hq]

end Standard

namespace Value

def integer? : Value → Option Int
  | .int _ i => some i
  | .uint _ n => some n
  | .number lit => (Numeric.readSigned 64 lit).toOption
  | _ => none

variable {spec : String}

/-- Under `F0`, and under `G` with a positive precision, a value standing for an integer is
formatted as the float nearest to that integer, whatever its width or signedness. -/
theorem formatWith_of_integer? {x : Value} {v : Int} (hx : x.integer? = some v)
    (hspec : spec = "F0" ∨ ∃ q, 0 < q ∧ Standard.Specifier.read spec = .ok ⟨'G', some q⟩) :
    x.formatWith spec = Standard.formatFloat (Binary.ofInt FloatFormat.double v) spec := by
  have hint : ∀ bits, Standard.formatInt bits v spec =
      Standard.formatFloat (Binary.ofInt FloatFormat.double v) spec := by
    intro bits
    rcases hspec with rfl | ⟨q, hq, hspec⟩
    · exact Standard.formatInt_fixed bits v
    · exact Standard.formatInt_general bits v hspec hq
  cases x <;> simp only [integer?, reduceCtorEq] at hx
  case int k i =>
    obtain rfl : i = v := Option.some.inj hx
    exact hint k.bits
  case uint k n =>
    obtain rfl : (n : Int) = v := Option.some.inj hx
    rcases hspec with rfl | ⟨q, hq, hspec⟩
    · exact Standard.formatUInt_fixed n
    · exact Standard.formatUInt_general n hspec hq
  case number lit =>
    -- a text that reads as a 64-bit integer is formatted as that integer
    cases hr : Numeric.readSigned 64 lit with
    | error _ => simp [hr, Except.toOption] at hx
    | ok i =>
      obtain rfl : i = v := by simpa [hr, Except.toOption] using hx
      simp only [formatWith, hr]
      exact hint 64

/-- Integers go through the nearest 64-bit float under `F0` and under `G` with a positive
precision, and keep their exact decimal text there for every magnitude up to `2^53`: a signed or
unsigned integer of any width, and a JSON number whose text reads as a 64-bit integer, is written
under `F0`, and under `G` with a precision of at least its number of digits, as its own sign and
digits. -/
theorem integer_text_through_float {x : Value} {v : Int} (hx : x.integer? = some v) :
    x.formatWith "F0" = Standard.formatFloat (Binary.ofInt FloatFormat.double v) "F0" ∧
    (∀ spec q, Standard.Specifier.read spec = .ok ⟨'G', some q⟩ → 0 < q →
      x.formatWith spec = Standard.formatFloat (Binary.ofInt FloatFormat.double v) spec) ∧
    (v.natAbs ≤ 2 ^ 53 →
      x.formatWith "F0" = .ok (toString v) ∧
      ∀ spec q, Standard.Specifier.read spec = .ok ⟨'G', some q⟩ → 0 < q →
        (Nat.toDigits 10 v.natAbs).length ≤ q → x.formatWith spec = .ok (toString v)) := by
  have hfixed := formatWith_of_integer? hx (Or.inl rfl)
  have hgeneral : ∀ spec q, Standard.Specifier.read spec = .ok ⟨'G', some q⟩ → 0 < q →
      x.formatWith spec = Standard.formatFloat (Binary.ofInt FloatFormat.double v) spec :=
    fun spec q hspec hq => formatWith_of_integer? hx (Or.inr ⟨q, hq, hspec⟩)
  refine ⟨hfixed, hgeneral, fun hv => ?_⟩
  -- within `2^53` the nearest float is the integer itself
  have hexact := Binary.ofInt_exact_of_natAbs_le hv
  refine ⟨hfixed.trans (Standard.formatFloat_ofInt_exact hexact).1, fun spec q hspec hq hlen => ?_⟩
  rw [hgeneral spec q hspec hq]
  exact (Standard.formatFloat_ofInt_exact hexact).2 spec q hspec hq hlen

theorem integer_text_through_float_two_pow_53 :
    (Value.int .int64 9007199254740992).integer? = some 9007199254740992 ∧
    (Value.int .int64 9007199254740992).formatWith "F0" = .ok "9007199254740992" ∧
    (Value.int .int64 9007199254740992).formatWith "G16" = .ok "9007199254740992" := by
  have h := (integer_text_through_float (x := .int .int64 9007199254740992) rfl).2.2 (by decide)
  exact ⟨rfl, h.1, h.2 "G16" 16 rfl (by decide) (by decide)⟩

/-- One past `2^53` the nearest float is `2^53`, and so is the text under `F0`. -/
theorem int64_fixed_rounds_past_two_pow_53 :
    (Value.int .int64 9007199254740993).formatWith "F0" = .ok "9007199254740992" := by
  rfl

end Value

end MessageTemplate
