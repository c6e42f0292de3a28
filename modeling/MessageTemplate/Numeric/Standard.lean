import MessageTemplate.Numeric.Notation
import MessageTemplate.Text.Quote
/-! Standard numeric format specifiers: a letter and an optional precision. -/
namespace MessageTemplate.Standard

/-- Why a value could not be formatted with a specifier. -/
inductive SpecError where
  | unsupported (spec : String)
  | invalidPrecision (spec : String)
  | notValidFor (spec value : String)
  | refused (reason : String)
deriving DecidableEq, Repr

def formatErrorText : String := "input string was not in a correct format"

/-- The message of a specifier error. -/
def SpecError.message : SpecError → String
  | .unsupported s => "unsupported format specifier " ++ Text.quote s ++ ": " ++ formatErrorText
  | .invalidPrecision s =>
    "invalid precision in format specifier " ++ Text.quote s ++ ": " ++ formatErrorText
  | .notValidFor s v =>
    "format specifier " ++ Text.quote s ++ " is not valid for " ++ v ++ ": " ++ formatErrorText
  | .refused r => r

def SpecError.isFormatError : SpecError → Bool
  | .refused _ => false
  | _ => true

/-- A specifier read as its letter and its precision, if any. -/
structure Specifier where
  letter : Char
  precision : Option Nat
deriving DecidableEq, Repr

def readPrecision (cs : List Char) : Option Int :=
  let (neg, body) := match cs with
    | '-' :: r => (true, r)
    | '+' :: r => (false, r)
    | r => (false, r)
  if body.isEmpty || !body.all Char.isDigit then none
  else
    let n : Int := body.foldl (fun acc c => acc * 10 + (c.toNat - 48)) 0
    some (if neg then -n else n)

/-- Read a specifier: one ASCII letter and an optional non-negative precision, three bytes at
most. -/
def Specifier.read (spec : String) : Except SpecError Specifier :=
  if spec.utf8ByteSize = 0 || spec.utf8ByteSize > 3 then .error (.unsupported spec)
  else
    match spec.toList with
    | [] => .error (.unsupported spec)
    | c :: rest =>
      if !(('A' ≤ c && c ≤ 'Z') || ('a' ≤ c && c ≤ 'z')) then .error (.unsupported spec)
      else if rest.isEmpty then .ok ⟨c, none⟩
      else
        match readPrecision rest with
        | some p => if p < 0 then .error (.invalidPrecision spec) else .ok ⟨c, some p.toNat⟩
        | none => .error (.invalidPrecision spec)

def Specifier.precisionOr (s : Specifier) (d : Nat) : Nat := s.precision.getD d

def padZeros (width : Nat) (ds : List Char) : String :=
  String.ofList (List.replicate (width - ds.length) '0' ++ ds)

def groupThousands (ds : List Char) : List Char :=
  let rev := ds.reverse
  let rec go : List Char → Nat → List Char
    | [], _ => []
    | c :: cs, i => if i > 0 && i % 3 = 0 then ',' :: c :: go cs (i + 1) else c :: go cs (i + 1)
  (go rev 0).reverse

def groupedDecimal (neg : Bool) (d : Decimal) (prec : Nat) : String :=
  let intDigits : List Char :=
    if d.point > 0 then (List.range d.point.toNat).map fun (i : Nat) => Notation.digitAt d (i : Int)
    else ['0']
  let frac : List Char :=
    if prec > 0 then '.' :: (List.range prec).map fun (i : Nat) => Notation.digitAt d (d.point + (i : Int))
    else []
  String.ofList ((if neg then ['-'] else []) ++ groupThousands intDigits ++ frac)

def groupedInt (z : Int) (prec : Nat) : String :=
  groupedDecimal (decide (z < 0)) (Decimal.ofNat z.natAbs) prec

def groupedFloat (x : Binary) (prec : Nat) : String :=
  match x with
  | .nan => "NaN"
  | .inf s => (if s then "-" else "") ++ "∞"
  | .finite s m e =>
    let d := Decimal.ofMantExp m e
    groupedDecimal (s && m ≠ 0) (d.roundAt (d.point + prec)) prec

def decimalDigits (n : Nat) : List Char := Nat.toDigits 10 n

/-- Hexadecimal digits, upper-case for `X`. -/
def hexDigits (upper : Bool) (n : Nat) : List Char :=
  (Nat.toDigits 16 n).map fun c => if upper then c.toUpper else c

def floatText (x : Binary) : String := x.toText FloatFormat.double 'g' (-1)

/-- Upper-case the ASCII letters of a text. -/
def upper (s : String) : String := String.ofList (s.toList.map Char.toUpper)

def integerDigits (bits : Nat) (v : Int) (s : Specifier) : String :=
  if s.letter = 'D' || s.letter = 'd' then
    (if v < 0 then "-" else "") ++ padZeros (s.precisionOr 0) (decimalDigits v.natAbs)
  else
    let u := if v < 0 then v + Int.pow 2 bits else v
    padZeros (s.precisionOr 0) (hexDigits (s.letter = 'X') (u.toNat % Nat.pow 2 bits))

/-- A 64-bit float with a specifier. NaN and the infinities print as `NaN`, `Infinity` and
`-Infinity` whatever the specifier; `D` and `X` apply to integral values below `2^63` in
magnitude, as 64-bit integers. -/
def formatFloat (x : Binary) (spec : String) : Except SpecError String :=
  match x with
  | .nan => .ok "NaN"
  | .inf s => .ok (if s then "-Infinity" else "Infinity")
  | _ =>
    if spec.isEmpty then .ok (floatText x)
    else
      match Specifier.read spec with
      | .error e => .error e
      | .ok s =>
        let dbl := FloatFormat.double
        let l := s.letter
        if l = 'F' || l = 'f' then .ok (x.toText dbl 'f' (s.precisionOr 2))
        else if l = 'N' || l = 'n' then .ok (groupedFloat x (s.precisionOr 2))
        else if l = 'E' || l = 'e' then
          let t := (x.toText dbl 'e' (s.precisionOr 6)).toList
          let mant := t.takeWhile (· ≠ 'e')
          let expo := (t.dropWhile (· ≠ 'e')).drop 1
          .ok (String.ofList mant ++ String.singleton l ++ String.ofList (expo.take 1) ++
            padZeros 3 (expo.drop 1))
        else if l = 'G' || l = 'g' then
          let p : Int := match s.precision with
            | some p => if p > 0 then p else -1
            | none => -1
          let t := x.toText dbl 'g' p
          .ok (if l = 'G' then upper t else t)
        else if l = 'R' || l = 'r' then .ok (upper (floatText x))
        else if l = 'P' || l = 'p' then
          .ok (groupedFloat (Binary.mul dbl x (Binary.ofInt dbl 100)) (s.precisionOr 2) ++ " %")
        else if l = 'C' || l = 'c' then
          let p := s.precisionOr 2
          if Binary.lt x Binary.zero then .ok ("(¤" ++ groupedFloat x.neg p ++ ")")
          else .ok ("¤" ++ groupedFloat x p)
        else if (l = 'D' || l = 'd' || l = 'X' || l = 'x') && x.isIntegral &&
            Binary.lt x.abs (Binary.ofInt dbl (Int.pow 2 63)) then
          .ok (integerDigits 64 (x.truncInt?.getD 0) s)
        else .error (.notValidFor spec (floatText x))

/-- A signed integer of `bits` bits with a specifier. `G` and `R` with a positive precision,
and the letters that only apply to floats, go through the nearest 64-bit float. -/
def formatInt (bits : Nat) (v : Int) (spec : String) : Except SpecError String :=
  if spec.isEmpty then .ok (toString v)
  else
    match Specifier.read spec with
    | .error e => .error e
    | .ok s =>
      let l := s.letter
      let viaFloat := formatFloat (Binary.ofInt FloatFormat.double v) spec
      if l = 'D' || l = 'd' || l = 'X' || l = 'x' then .ok (integerDigits bits v s)
      else if l = 'G' || l = 'g' || l = 'R' || l = 'r' then
        if s.precisionOr 0 > 0 then viaFloat else .ok (toString v)
      else if l = 'N' || l = 'n' then .ok (groupedInt v (s.precisionOr 2))
      else viaFloat

/-- An unsigned integer with a specifier. -/
def formatUInt (v : Nat) (spec : String) : Except SpecError String :=
  if spec.isEmpty then .ok (toString v)
  else
    match Specifier.read spec with
    | .error e => .error e
    | .ok s =>
      let l := s.letter
      let viaFloat := formatFloat (Binary.ofInt FloatFormat.double v) spec
      if l = 'D' || l = 'd' then .ok (padZeros (s.precisionOr 0) (decimalDigits v))
      else if l = 'X' || l = 'x' then .ok (padZeros (s.precisionOr 0) (hexDigits (l = 'X') v))
      else if l = 'G' || l = 'g' || l = 'R' || l = 'r' then
        if s.precisionOr 0 > 0 then viaFloat else .ok (toString v)
      else if l = 'N' || l = 'n' then .ok (groupedInt v (s.precisionOr 2))
      else viaFloat

end MessageTemplate.Standard
