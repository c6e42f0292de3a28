import MessageTemplate.Numeric.Binary
/-! Decimal digit strings of binary numbers. -/
namespace MessageTemplate

/-- A decimal number `0.d₁d₂…dₙ × 10^point`, its digits without trailing zeros. -/
structure Decimal where
  digits : List Nat
  point : Int
deriving DecidableEq, Repr, Inhabited

namespace Decimal

/-- Zero, with no digits. -/
def zero : Decimal := ⟨[], 0⟩

/-- Digits with their trailing zeros removed; no digits left is zero. -/
def normalize (ds : List Nat) (point : Int) : Decimal :=
  let kept := (ds.reverse.dropWhile (· = 0)).reverse
  if kept.isEmpty then zero else ⟨kept, point⟩

def natDigits (n : Nat) : List Nat :=
  if n = 0 then [] else (Nat.toDigits 10 n).map fun c => c.toNat - 48

/-- A natural number as a decimal. -/
def ofNat (n : Nat) : Decimal :=
  let ds := natDigits n
  normalize ds ds.length

/-- The exact decimal value of `m * 2^e`. -/
def ofMantExp (m : Nat) (e : Int) : Decimal :=
  if 0 ≤ e then ofNat (m * Nat.pow 2 e.toNat)
  else
    let ds := natDigits (m * Nat.pow 5 (-e).toNat)
    normalize ds ((ds.length : Int) + e)

/-- The number written by a list of digits. -/
def digitsValue (ds : List Nat) : Nat := ds.foldl (fun acc d => acc * 10 + d) 0

def increment (ds : List Nat) : List Nat × Bool :=
  let rec go : List Nat → List Nat × Bool
    | [] => ([], true)
    | d :: rest => if d < 9 then ((d + 1) :: rest, false) else
        let (r, carry) := go rest
        (0 :: r, carry)
  let (r, carry) := go ds.reverse
  (r.reverse, carry)

/-- The decimal rounded to `nd` digits, half to even. -/
def roundAt (d : Decimal) (nd : Int) : Decimal :=
  if (d.digits.length : Int) ≤ nd then d
  else if nd < 0 then zero
  else
    let n := nd.toNat
    let kept := d.digits.take n
    let next := d.digits.getD n 0
    let more := d.digits.length > n + 1
    let lastOdd := match kept.getLast? with
      | some x => x % 2 = 1
      | none => false
    let up := next > 5 || (next = 5 && (more || lastOdd))
    if up then
      let (r, carry) := increment kept
      if carry then ⟨[1], d.point + 1⟩ else normalize r d.point
    else normalize kept d.point

def cmpScaled (n1 : Nat) (x1 y1 : Int) (n2 : Nat) (x2 y2 : Int) : Ordering :=
  let x := min x1 x2
  let y := min y1 y2
  compare (n1 * Nat.pow 2 (x1 - x).toNat * Nat.pow 10 (y1 - y).toNat)
    (n2 * Nat.pow 2 (x2 - x).toNat * Nat.pow 10 (y2 - y).toNat)

def roundingBounds (f : FloatFormat) (m : Nat) (e : Int) : (Nat × Int) × (Nat × Int) :=
  let upper := (2 * m + 1, e - 1)
  let lower := if m = Nat.pow 2 (f.precision - 1) && e > f.minExp then (4 * m - 1, e - 2)
    else (2 * m - 1, e - 1)
  (lower, upper)

def candidate (f : FloatFormat) (m : Nat) (e : Int) (exact : Decimal) (k : Nat) :
    Option Decimal :=
  let ((lm, le), (um, ue)) := roundingBounds f m e
  let inclusive := m % 2 = 0
  let unit : Int := exact.point - k
  let q := digitsValue ((exact.digits.take k) ++ List.replicate (k - exact.digits.length) 0)
  let within (o : Ordering) (strict : Ordering) : Bool := o = strict || (inclusive && o = .eq)
  let loOk := within (cmpScaled q 0 unit lm le 0) .gt
  let hiOk := within (cmpScaled (q + 1) 0 unit um ue 0) .lt
  let build (c : Nat) : Decimal :=
    let ds := natDigits c
    normalize ds ((ds.length : Int) + unit)
  if loOk && hiOk then
    match cmpScaled (2 * m) e 0 (2 * q + 1) 0 unit with
    | .lt => some (build q)
    | .gt => some (build (q + 1))
    | .eq => some (if q % 2 = 0 then build q else build (q + 1))
  else if loOk then some (build q)
  else if hiOk then some (build (q + 1))
  else none

/-- The shortest decimal that reads back as `m * 2^e` in format `f`. -/
def shortest (f : FloatFormat) (m : Nat) (e : Int) : Decimal :=
  if m = 0 then zero
  else
    let exact := ofMantExp m e
    let found := (List.range exact.digits.length).findSome? fun i => candidate f m e exact (i + 1)
    found.getD exact

end Decimal

end MessageTemplate
