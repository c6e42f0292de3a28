import MessageTemplate.Value.Format
import MessageTemplate.Proofs.Numeric.Exact
/-! Integers under the `D` and `X` specifiers. -/
namespace MessageTemplate

/-- A value of a signed kind: within `[-2^(w-1), 2^(w-1))` for its width `w`. -/
def IntKind.InRange (k : IntKind) (v : Int) : Prop :=
  -(2 : Int) ^ (k.bits - 1) ≤ v ∧ v < 2 ^ (k.bits - 1)

instance (k : IntKind) (v : Int) : Decidable (k.InRange v) :=
  inferInstanceAs (Decidable (_ ∧ _))

theorem IntKind.InRange.neg_two_pow_le {k : IntKind} {v : Int} (h : k.InRange v) :
    -(2 : Int) ^ k.bits ≤ v := by
  have hle : (2 : Int) ^ (k.bits - 1) ≤ 2 ^ k.bits := pow_le_pow_right₀ (by norm_num) (by omega)
  exact le_trans (by omega) h.1

namespace Numeric

theorem readSigned_bounds {bits : Nat} {text : String} {i : Int} (h : readSigned bits text = .ok i) :
    -((Nat.pow 2 (bits - 1) : Nat) : Int) ≤ i ∧ i < (Nat.pow 2 (bits - 1) : Nat) := by
  have hpos : 0 < Nat.pow 2 (bits - 1) := Nat.two_pow_pos _
  unfold readSigned at h
  dsimp only at h
  -- whichever sign is read, the magnitude is checked against the limit for that sign
  split at h <;> split at h <;> (try cases h) <;> split at h <;> (try cases h) <;>
    split at h <;> split at h <;> cases h <;> omega

end Numeric

namespace Standard

/-- The `D` text: a minus sign when asked, then the decimal digits of a magnitude, zero-padded to
the precision. -/
def decimalText (neg : Bool) (n : Nat) (p : Option Nat) : String :=
  (if neg then "-" else "") ++ padZeros (p.getD 0) (Nat.toDigits 10 n)

/-- The `X` text: the hexadecimal digits of a number, upper-case when asked, zero-padded to the
precision. -/
def hexText (upper : Bool) (n : Nat) (p : Option Nat) : String :=
  padZeros (p.getD 0) ((Nat.toDigits 16 n).map fun c => if upper then c.toUpper else c)

/-- What `D` and `X` write for an integer taken at `w` bits: for `D` and `d` the sign and the
decimal digits of the magnitude, otherwise the hexadecimal digits of the value modulo `2^w`,
upper-case for `X`. -/
def integerText (w : Nat) (v : Int) (l : Char) (p : Option Nat) : String :=
  if l = 'D' ∨ l = 'd' then decimalText (decide (v < 0)) v.natAbs p
  else hexText (decide (l = 'X')) (v % 2 ^ w).toNat p

/-- A specifier that reads is not empty. -/
theorem Specifier.isEmpty_of_read {spec : String} {s : Specifier} (h : Specifier.read spec = .ok s) :
    spec.isEmpty = false := by
  unfold Specifier.read at h
  split at h
  · cases h
  · rename_i hsize
    simp only [Bool.or_eq_true, decide_eq_true_eq, not_or] at hsize
    simp [String.isEmpty, hsize.1]

variable {spec : String} {l : Char} {p : Option Nat}

theorem formatInt_of_integer_letter (bits : Nat) (v : Int)
    (hspec : Specifier.read spec = .ok ⟨l, p⟩) (hl : l = 'D' ∨ l = 'd' ∨ l = 'X' ∨ l = 'x') :
    formatInt bits v spec = .ok (integerDigits bits v ⟨l, p⟩) := by
  have hdx : (l = 'D' || l = 'd' || l = 'X' || l = 'x') = true := by
    rcases hl with rfl | rfl | rfl | rfl <;> decide
  simp only [formatInt, Specifier.isEmpty_of_read hspec, hspec, hdx]
  rfl

theorem twos_complement_toNat (w : Nat) {v : Int} (hv : -(2 : Int) ^ w ≤ v) :
    (if v < 0 then v + Int.pow 2 w else v).toNat % Nat.pow 2 w = (v % 2 ^ w).toNat := by
  have hpos : (0 : Int) < 2 ^ w := by positivity
  have hcast : ((Nat.pow 2 w : Nat) : Int) = 2 ^ w := by simp [Nat.pow_eq]
  by_cases hneg : v < 0
  · -- `v + 2^w` already lies in `[0, 2^w)`
    have hmod : v % 2 ^ w = v + 2 ^ w := by
      rw [← Int.add_emod_right, Int.emod_eq_of_lt (by omega) (by omega)]
    rw [if_pos hneg, hmod, show Int.pow 2 w = 2 ^ w from rfl]
    exact Nat.mod_eq_of_lt (by omega)
  · rw [if_neg hneg, Int.toNat_emod (by omega) hpos.le, ← hcast, Int.toNat_natCast]

theorem integerDigits_eq (w : Nat) {v : Int} (hv : -(2 : Int) ^ w ≤ v) :
    integerDigits w v ⟨l, p⟩ = integerText w v l p := by
  unfold integerDigits integerText
  by_cases hd : l = 'D' ∨ l = 'd'
  · simp [hd, decimalText, decimalDigits, Specifier.precisionOr]
  · have hd' : (l = 'D' || l = 'd') = false := by simpa using hd
    simp only [hd', hd, Bool.false_eq_true, if_false, twos_complement_toNat w hv,
      Specifier.precisionOr, hexText, hexDigits, decide_eq_true_eq]

theorem formatUInt_of_integer_letter (n : Nat)
    (hspec : Specifier.read spec = .ok ⟨l, p⟩) (hl : l = 'D' ∨ l = 'd' ∨ l = 'X' ∨ l = 'x') :
    formatUInt n spec =
      .ok (if l = 'D' ∨ l = 'd' then decimalText false n p else hexText (decide (l = 'X')) n p) := by
  rcases hl with rfl | rfl | rfl | rfl <;>
    simp [formatUInt, Specifier.isEmpty_of_read hspec, hspec, decimalText, hexText, decimalDigits,
      hexDigits, Specifier.precisionOr]

theorem formatFloat_of_integer_letter (s : Bool) (m : Nat) (e : Int)
    (hspec : Specifier.read spec = .ok ⟨l, p⟩) (hl : l = 'D' ∨ l = 'd' ∨ l = 'X' ∨ l = 'x') :
    formatFloat (.finite s m e) spec =
      if ((Binary.finite s m e).isIntegral &&
          Binary.lt (Binary.finite s m e).abs (Binary.ofInt FloatFormat.double (Int.pow 2 63))) then
        .ok (integerDigits 64 ((Binary.finite s m e).truncInt?.getD 0) ⟨l, p⟩)
      else .error (.notValidFor spec (floatText (.finite s m e))) := by
  rcases hl with rfl | rfl | rfl | rfl <;>
    simp only [formatFloat, Specifier.isEmpty_of_read hspec, hspec] <;> rfl

/-- A finite float under `D` or `X` is written as the 64-bit integer it equals when that integer
is below `2^63` in magnitude, and refused with a format error otherwise. -/
theorem formatFloat_integer_value {x : Binary} {q : ℚ} (hx : x.toRat? = some q)
    (hspec : Specifier.read spec = .ok ⟨l, p⟩) (hl : l = 'D' ∨ l = 'd' ∨ l = 'X' ∨ l = 'x') :
    (∀ n : Int, q = n → n.natAbs < 2 ^ 63 → formatFloat x spec = formatInt 64 n spec) ∧
    ((∀ n : Int, q = n → 2 ^ 63 ≤ n.natAbs) →
      ∃ err, formatFloat x spec = .error err ∧ err.isFormatError = true) := by
  obtain ⟨s, m, e, rfl⟩ : ∃ s m e, x = .finite s m e := by
    cases x with
    | finite s m e => exact ⟨s, m, e, rfl⟩
    | nan => simp [Binary.toRat?] at hx
    | inf => simp [Binary.toRat?] at hx
  rw [formatFloat_of_integer_letter s m e hspec hl]
  cases hint : (Binary.finite s m e).isIntegral
  case false =>
    -- no integer equals a number that fails the integral test
    refine ⟨fun n hn _ => absurd (hn ▸ hx) (Binary.toRat?_ne_int_of_isIntegral_false hint n),
      fun _ => ⟨_, rfl, rfl⟩⟩
  case true =>
    obtain ⟨n₀, htrunc, hval⟩ := Binary.toRat?_of_isIntegral hint
    have hq : q = n₀ := Option.some.inj (hx.symm.trans hval)
    -- the magnitude test reads `|n₀| < 2^63`
    have hlt : Binary.lt (Binary.finite s m e).abs
        (Binary.ofInt FloatFormat.double (Int.pow 2 63)) = true ↔ n₀.natAbs < 2 ^ 63 := by
      rw [Binary.lt_two_pow_63_iff, ← Binary.abs_of_toRat? hx, hq, ← Int.cast_abs,
        ← Int.natCast_natAbs]
      norm_cast
    refine ⟨fun n hn hsmall => ?_, fun hbig => ?_⟩
    · obtain rfl : n = n₀ := by exact_mod_cast hn.symm.trans hq
      rw [formatInt_of_integer_letter 64 n hspec hl, Bool.true_and, hlt.mpr hsmall, if_pos rfl,
        htrunc, Option.getD_some]
    · have hfalse : Binary.lt (Binary.finite s m e).abs
          (Binary.ofInt FloatFormat.double (Int.pow 2 63)) = false := by
        have := hbig n₀ hq
        cases hb : Binary.lt (Binary.finite s m e).abs
          (Binary.ofInt FloatFormat.double (Int.pow 2 63))
        · rfl
        · exact absurd (hlt.mp hb) (by omega)
      exact ⟨_, by rw [Bool.true_and, hfalse]; rfl, rfl⟩

end Standard

open Standard

/-- Integers are written exactly under the `D` and `X` specifiers, with any precision and at every
width. A signed integer of `w` bits gets a minus sign when negative and the decimal digits of its
magnitude under `D`, and the hexadecimal digits of its value modulo `2^w` under `X` (upper-case for
`X`, lower-case for `x`), zero-padded to the precision; an unsigned integer gets the digits of its
value. A JSON number whose text reads as a 64-bit integer is written as that integer. A 64-bit
float is formatted as the number it is, and a finite number whose value is an integer below `2^63`
in magnitude is written as that 64-bit integer, while any other finite number is refused with a
format error. -/
theorem integer_specifiers_exact {spec : String} {l : Char} {p : Option Nat}
    (hspec : Specifier.read spec = .ok ⟨l, p⟩) (hl : l = 'D' ∨ l = 'd' ∨ l = 'X' ∨ l = 'x') :
    (∀ (k : IntKind) (v : Int), k.InRange v →
      (Value.int k v).formatWith spec = .ok (integerText k.bits v l p)) ∧
    (∀ (k : UIntKind) (n : Nat), (Value.uint k n).formatWith spec =
      .ok (if l = 'D' ∨ l = 'd' then decimalText false n p else hexText (decide (l = 'X')) n p)) ∧
    (∀ (text : String) (i : Int), Numeric.readSigned 64 text = .ok i →
      (Value.number text).formatWith spec = .ok (integerText 64 i l p)) ∧
    (∀ x : Binary, x.convert FloatFormat.double = x →
      (Value.float .float64 x).formatWith spec = formatFloat x spec) ∧
    ∀ (x : Binary) (q : ℚ), x.toRat? = some q →
      (∀ n : Int, q = n → n.natAbs < 2 ^ 63 →
        formatFloat x spec = (Value.int .int64 n).formatWith spec) ∧
      ((∀ n : Int, q = n → 2 ^ 63 ≤ n.natAbs) →
        ∃ err, formatFloat x spec = .error err ∧ err.isFormatError = true) := by
  have hne := Specifier.isEmpty_of_read hspec
  refine ⟨fun k v hv => ?_, fun k n => formatUInt_of_integer_letter n hspec hl,
    fun text i hi => ?_, fun x hx => ?_, fun x q hx => formatFloat_integer_value hx hspec hl⟩
  · rw [Value.formatWith, formatInt_of_integer_letter _ _ hspec hl,
      integerDigits_eq _ hv.neg_two_pow_le]
  · -- a JSON number read as a 64-bit integer lies in the range of `int64`
    have hbounds := Numeric.readSigned_bounds hi
    have hrange : -(2 : Int) ^ 64 ≤ i := by
      have : ((Nat.pow 2 (64 - 1) : Nat) : Int) ≤ 2 ^ 64 := by norm_num
      exact le_trans (by omega) hbounds.1
    simp only [Value.formatWith, hi]
    rw [formatInt_of_integer_letter _ _ hspec hl, integerDigits_eq _ hrange]
  · simp [Value.formatWith, hne, hx]

/-- The least 8-bit integer under `X4` is its two's complement `80`, padded to four digits. -/
theorem integer_specifiers_exact_int8 :
    Specifier.read "X4" = .ok ⟨'X', some 4⟩ ∧
      (Value.int .int8 (-128)).formatWith "X4" = .ok "0080" := by
  have hread : Specifier.read "X4" = .ok ⟨'X', some 4⟩ := rfl
  refine ⟨hread, ?_⟩
  rw [(integer_specifiers_exact hread (by decide)).1 .int8 (-128) (by decide)]
  rfl

end MessageTemplate
