/-! Binary floating-point numbers of the IEEE 754 interchange formats, with exact arithmetic
rounded once, to nearest with ties to even. -/
namespace MessageTemplate

/-- An IEEE 754 binary format: the significand bits, the hidden bit included, and the greatest
exponent of a leading bit. -/
structure FloatFormat where
  precision : Nat
  emax : Nat
deriving DecidableEq, Repr

namespace FloatFormat

/-- The 64-bit format: 53 significand bits. -/
def double : FloatFormat := ⟨53, 1023⟩

/-- The 32-bit format: 24 significand bits. -/
def single : FloatFormat := ⟨24, 127⟩

/-- The exponent of the last significand bit of the smallest numbers. -/
def minExp (f : FloatFormat) : Int := 1 - (f.emax : Int) - ((f.precision : Int) - 1)

def maxExp (f : FloatFormat) : Int := (f.emax : Int) - ((f.precision : Int) - 1)

end FloatFormat

/-- A binary floating-point number. -/
inductive Binary where
  | nan
  | inf (neg : Bool)
  | finite (neg : Bool) (mant : Nat) (exp : Int)
deriving DecidableEq, Repr, Inhabited

namespace Binary

def ratio (m : Nat) (e : Int) : Nat × Nat :=
  if 0 ≤ e then (m * Nat.pow 2 e.toNat, 1) else (m, Nat.pow 2 (-e).toNat)

def scaledDiv (num den : Nat) (e : Int) : Nat × Nat × Nat :=
  let (n, d) := if 0 ≤ e then (num, den * Nat.pow 2 e.toNat) else (num * Nat.pow 2 (-e).toNat, den)
  (n / d, n % d, d)

def binadeExp (p num den : Nat) : Int :=
  let guess : Int := (Nat.log2 num : Int) - (Nat.log2 den : Int) - ((p : Int) - 1)
  let lowered := if (scaledDiv num den guess).1 < Nat.pow 2 (p - 1) then guess - 1 else guess
  if (scaledDiv num den lowered).1 ≥ Nat.pow 2 p then lowered + 1 else lowered

/-- The number of the format nearest to `num / den` with sign `neg`, ties to even, for
`den > 0`. Magnitudes past the largest finite number round to an infinity. -/
def roundRatio (f : FloatFormat) (neg : Bool) (num den : Nat) : Binary :=
  if num = 0 then .finite neg 0 f.minExp
  else
    let e := max (binadeExp f.precision num den) f.minExp
    let (q, r, d) := scaledDiv num den e
    let q' := if 2 * r > d || (2 * r = d && q % 2 = 1) then q + 1 else q
    let (m, e') := if q' = Nat.pow 2 f.precision then (Nat.pow 2 (f.precision - 1), e + 1) else (q', e)
    if e' > f.maxExp then .inf neg else .finite neg m e'

/-- The number of the format nearest to `(-1)^neg * m * 2^e`. -/
def ofMantExp (f : FloatFormat) (neg : Bool) (m : Nat) (e : Int) : Binary :=
  let (n, d) := ratio m e
  roundRatio f neg n d

/-- The number of the format nearest to an integer. -/
def ofInt (f : FloatFormat) (z : Int) : Binary :=
  roundRatio f (decide (z < 0)) z.natAbs 1

/-- The same number in another format, rounded when it does not fit. -/
def convert (f : FloatFormat) : Binary → Binary
  | .nan => .nan
  | .inf s => .inf s
  | .finite s m e => ofMantExp f s m e

/-- The positive zero of the 64-bit format. -/
def zero : Binary := .finite false 0 FloatFormat.double.minExp

/-- Whether a number is not a number. -/
def isNaN : Binary → Bool
  | .nan => true
  | _ => false

def isZero : Binary → Bool
  | .finite _ m _ => m = 0
  | _ => false

def signBit : Binary → Bool
  | .nan => false
  | .inf s => s
  | .finite s _ _ => s

/-- The number with its sign flipped. -/
def neg : Binary → Binary
  | .nan => .nan
  | .inf s => .inf (!s)
  | .finite s m e => .finite (!s) m e

/-- The magnitude. -/
def abs : Binary → Binary
  | .nan => .nan
  | .inf _ => .inf false
  | .finite _ m e => .finite false m e

def cmpMag (m1 : Nat) (e1 : Int) (m2 : Nat) (e2 : Int) : Ordering :=
  let e := min e1 e2
  compare (m1 * Nat.pow 2 (e1 - e).toNat) (m2 * Nat.pow 2 (e2 - e).toNat)

/-- The order of two numbers that are not NaN; the two zeros are equal. -/
def order : Binary → Binary → Ordering
  | .inf a, .inf b => if a = b then .eq else if a then .lt else .gt
  | .inf a, _ => if a then .lt else .gt
  | _, .inf b => if b then .gt else .lt
  | .finite a m1 e1, .finite b m2 e2 =>
    if m1 = 0 && m2 = 0 then .eq
    else if m1 = 0 then (if b then .gt else .lt)
    else if m2 = 0 then (if a then .lt else .gt)
    else if a ≠ b then (if a then .lt else .gt)
    else if a then (cmpMag m2 e2 m1 e1) else cmpMag m1 e1 m2 e2
  | _, _ => .eq

def eqv (x y : Binary) : Bool :=
  !x.isNaN && !y.isNaN && order x y == .eq

/-- Numeric less-than: false when either is NaN. -/
def lt (x y : Binary) : Bool :=
  !x.isNaN && !y.isNaN && order x y == .lt

/-- Numeric less-or-equal: false when either is NaN. -/
def le (x y : Binary) : Bool :=
  !x.isNaN && !y.isNaN && order x y != .gt

/-- The exact product, rounded. -/
def mul (f : FloatFormat) : Binary → Binary → Binary
  | .nan, _ => .nan
  | _, .nan => .nan
  | .inf a, .inf b => .inf (a != b)
  | .inf a, .finite b m _ => if m = 0 then .nan else .inf (a != b)
  | .finite a m _, .inf b => if m = 0 then .nan else .inf (a != b)
  | .finite a m1 e1, .finite b m2 e2 => ofMantExp f (a != b) (m1 * m2) (e1 + e2)

def div (f : FloatFormat) : Binary → Binary → Binary
  | .nan, _ => .nan
  | _, .nan => .nan
  | .inf _, .inf _ => .nan
  | .inf a, .finite b _ _ => .inf (a != b)
  | .finite a _ _, .inf b => .finite (a != b) 0 f.minExp
  | .finite a m1 e1, .finite b m2 e2 =>
    if m2 = 0 then (if m1 = 0 then .nan else .inf (a != b))
    else
      let (n1, d1) := ratio m1 e1
      let (n2, d2) := ratio m2 e2
      roundRatio f (a != b) (n1 * d2) (d1 * n2)

/-- The exact sum, rounded; an exact zero sum of opposite signs is positive. -/
def add (f : FloatFormat) : Binary → Binary → Binary
  | .nan, _ => .nan
  | _, .nan => .nan
  | .inf a, .inf b => if a = b then .inf a else .nan
  | .inf a, _ => .inf a
  | _, .inf b => .inf b
  | .finite a m1 e1, .finite b m2 e2 =>
    let e := min e1 e2
    let x := m1 * Nat.pow 2 (e1 - e).toNat
    let y := m2 * Nat.pow 2 (e2 - e).toNat
    if a = b then
      if x + y = 0 then .finite a 0 f.minExp else ofMantExp f a (x + y) e
    else if x = y then .finite false 0 f.minExp
    else if x > y then ofMantExp f a (x - y) e
    else ofMantExp f b (y - x) e

/-- The exact difference, rounded. -/
def sub (f : FloatFormat) (x y : Binary) : Binary := add f x y.neg

/-- Whether a finite number has no fractional part. -/
def isIntegral : Binary → Bool
  | .finite _ m e => 0 ≤ e || m % Nat.pow 2 (-e).toNat = 0
  | _ => false

/-- The integer part of a finite number, rounded toward zero. -/
def truncInt? : Binary → Option Int
  | .finite s m e =>
    let n := if 0 ≤ e then m * Nat.pow 2 e.toNat else m / Nat.pow 2 (-e).toNat
    some (if s then -(n : Int) else n)
  | _ => none

end Binary

end MessageTemplate
