import MessageTemplate.Numeric.Decimal
/-! The three notations of a binary number. -/
namespace MessageTemplate.Notation

def digitChar (d : Nat) : Char := Char.ofNat (48 + d)

def digitAt (d : Decimal) (i : Int) : Char :=
  if 0 ≤ i then digitChar (d.digits.getD i.toNat 0) else '0'

/-- Fixed notation with `prec` fraction digits. -/
def fixed (neg : Bool) (d : Decimal) (prec : Nat) : String :=
  let intPart : List Char :=
    if d.point > 0 then (List.range d.point.toNat).map fun (i : Nat) => digitAt d (i : Int) else ['0']
  let fracPart : List Char :=
    if prec > 0 then '.' :: (List.range prec).map fun (i : Nat) => digitAt d (d.point + (i : Int)) else []
  String.ofList ((if neg then ['-'] else []) ++ intPart ++ fracPart)

def padExponent (width n : Nat) : List Char :=
  let ds := (Nat.toDigits 10 n)
  List.replicate (width - ds.length) '0' ++ ds

/-- Exponent notation with `prec` fraction digits and at least two exponent digits. -/
def exponent (neg : Bool) (d : Decimal) (prec : Nat) (marker : Char) : String :=
  let first := digitAt d 0
  let frac : List Char :=
    if prec > 0 then '.' :: (List.range prec).map fun (i : Nat) => digitAt d ((i : Int) + 1) else []
  let e : Int := if d.digits.isEmpty then 0 else d.point - 1
  let sign := if e < 0 then '-' else '+'
  String.ofList ((if neg then ['-'] else []) ++ first :: frac ++ marker :: sign ::
    padExponent 2 e.natAbs)

/-- General notation for digits obtained with precision `prec` (`shortest` when the digits are
the shortest that read back). -/
def general (neg : Bool) (d : Decimal) (prec : Nat) (shortest : Bool) (marker : Char) : String :=
  let nd := d.digits.length
  let eprec : Int :=
    if shortest then 6 else if prec > nd && (nd : Int) ≥ d.point then nd else prec
  let e : Int := d.point - 1
  if e < -4 || e ≥ eprec then
    exponent neg d ((min prec nd) - 1) marker
  else
    let p : Nat := if (prec : Int) > d.point then nd else prec
    fixed neg d (p - d.point).toNat

end MessageTemplate.Notation

namespace MessageTemplate.Binary

/-- The text of a number in format `f` with verb `e`, `E`, `f`, `g` or `G`, and precision
`prec`: a negative precision asks for the shortest digits that read back. -/
def toText (f : FloatFormat) (x : Binary) (verb : Char) (prec : Int) : String :=
  match x with
  | .nan => "NaN"
  | .inf s => if s then "-Inf" else "+Inf"
  | .finite neg m e =>
    let upper := verb = 'E' || verb = 'G'
    let marker := if upper then 'E' else 'e'
    let isExp := verb = 'e' || verb = 'E'
    let isGen := verb = 'g' || verb = 'G'
    if prec < 0 then
      let d := Decimal.shortest f m e
      let nd := d.digits.length
      if isExp then Notation.exponent neg d (nd - 1) marker
      else if isGen then Notation.general neg d nd true marker
      else Notation.fixed neg d (nd - d.point).toNat
    else
      let exact := Decimal.ofMantExp m e
      let p := prec.toNat
      if isExp then Notation.exponent neg (exact.roundAt (p + 1)) p marker
      else if isGen then
        let p' := if p = 0 then 1 else p
        Notation.general neg (exact.roundAt p') p' false marker
      else Notation.fixed neg (exact.roundAt (exact.point + p)) p

end MessageTemplate.Binary
