import MessageTemplate.Numeric.Binary
import MessageTemplate.Text.Quote
/-! Reading numbers from text. -/
namespace MessageTemplate.Numeric

/-- Why a number could not be read from its text. -/
inductive ReadError where
  | malformed
  | range
deriving DecidableEq, Repr

/-- The message of a read error, naming the reading function and quoting the text. -/
def ReadError.message (fn text : String) : ReadError → String
  | .malformed => fn ++ ": parsing " ++ Text.quote text ++ ": invalid syntax"
  | .range => fn ++ ": parsing " ++ Text.quote text ++ ": value out of range"

def readUnsignedDigits (bits : Nat) : List Char → Nat → Except ReadError Nat
  | [], acc => .ok acc
  | c :: cs, acc =>
    if c.isDigit then
      let n := acc * 10 + (c.toNat - 48)
      if n ≥ Nat.pow 2 bits then .error .range else readUnsignedDigits bits cs n
    else .error .malformed

def readUnsigned (bits : Nat) (s : String) : Except ReadError Nat :=
  if s.isEmpty then .error .malformed else readUnsignedDigits bits s.toList 0

/-- A signed decimal integer of `bits` bits, with an optional `+` or `-`. -/
def readSigned (bits : Nat) (s : String) : Except ReadError Int :=
  let (neg, body) := match s.toList with
    | '+' :: r => (false, r)
    | '-' :: r => (true, r)
    | r => (false, r)
  let limit := Nat.pow 2 (bits - 1)
  if body.isEmpty then .error .malformed
  else
    match readUnsignedDigits 64 body 0 with
    | .error .malformed => .error .malformed
    | .error .range => .error .range
    | .ok n =>
      if neg then (if n > limit then .error .range else .ok (-(n : Int)))
      else if n ≥ limit then .error .range else .ok n

/-- A truth value: `1 t T TRUE true True` or `0 f F FALSE false False`. -/
def readBool (s : String) : Except ReadError Bool :=
  if ["1", "t", "T", "TRUE", "true", "True"].contains s then .ok true
  else if ["0", "f", "F", "FALSE", "false", "False"].contains s then .ok false
  else .error .malformed

def lowerAscii (c : Char) : Char :=
  if 'A' ≤ c && c ≤ 'Z' then Char.ofNat (c.toNat + 32) else c

def commonPrefixNoCase : List Char → List Char → Nat
  | a :: as, b :: bs => if lowerAscii a = lowerAscii b then commonPrefixNoCase as bs + 1 else 0
  | _, _ => 0

def readSpecial (cs : List Char) : Option Binary :=
  let (neg, signed, body) := match cs with
    | '+' :: r => (false, true, r)
    | '-' :: r => (true, true, r)
    | r => (false, false, r)
  let infLen := commonPrefixNoCase body "infinity".toList
  if (infLen = 3 || infLen = 8) && body.length = infLen then some (.inf neg)
  else if !signed && commonPrefixNoCase body "nan".toList = 3 && body.length = 3 then some .nan
  else none

/-- The mantissa of a number: its digits as one natural, the count of digits and the count
before the point, and whether an underscore appeared. -/
structure Mantissa where
  value : Nat := 0
  digits : Nat := 0
  beforePoint : Option Nat := none
  sawDigit : Bool := false
  underscore : Bool := false

def readMantissa (base : Nat) : List Char → Mantissa → Mantissa × List Char
  | [], m => (m, [])
  | c :: cs, m =>
    let d? : Option Nat :=
      if c.isDigit then some (c.toNat - 48)
      else if base = 16 && 'a' ≤ lowerAscii c && lowerAscii c ≤ 'f' then
        some ((lowerAscii c).toNat - 87)
      else none
    if c = '_' then readMantissa base cs { m with underscore := true }
    else if c = '.' then
      if m.beforePoint.isSome then (m, c :: cs)
      else readMantissa base cs { m with beforePoint := some m.digits }
    else match d? with
      | some d =>
        readMantissa base cs
          { m with value := m.value * base + d, digits := m.digits + 1, sawDigit := true }
      | none => (m, c :: cs)

def readExpDigits : List Char → Nat → Bool → Nat × Bool × List Char
  | [], e, u => (e, u, [])
  | c :: cs, e, u =>
    if c = '_' then readExpDigits cs e true
    else if c.isDigit then readExpDigits cs (if e < 10000 then e * 10 + (c.toNat - 48) else e) u
    else (e, u, c :: cs)

/-- What an underscore check last saw: the start, a digit (or a base prefix), an underscore,
or something else. -/
inductive UnderscoreSeen where
  | start | digit | underscore | other
deriving DecidableEq

def underscoresBetweenDigits (hex : Bool) : UnderscoreSeen → List Char → Bool
  | seen, [] => seen ≠ .underscore
  | seen, c :: rest =>
    if c.isDigit || (hex && 'a' ≤ lowerAscii c && lowerAscii c ≤ 'f') then
      underscoresBetweenDigits hex .digit rest
    else if c = '_' then seen = .digit && underscoresBetweenDigits hex .underscore rest
    else seen ≠ .underscore && underscoresBetweenDigits hex .other rest

def underscoresOk (cs : List Char) : Bool :=
  let body := match cs with
    | '+' :: r => r
    | '-' :: r => r
    | r => r
  match body with
  | '0' :: x :: rest =>
    let b := lowerAscii x
    if b = 'x' || b = 'o' || b = 'b' then underscoresBetweenDigits (b = 'x') .digit rest
    else underscoresBetweenDigits false .start body
  | _ => underscoresBetweenDigits false .start body

def readFinite (cs : List Char) : Option (Bool × Nat × Int × Int) :=
  let (neg, body) := match cs with
    | '+' :: r => (false, r)
    | '-' :: r => (true, r)
    | r => (false, r)
  let (hex, digitsText) := match body with
    | '0' :: x :: rest => if lowerAscii x = 'x' && !rest.isEmpty then (true, rest) else (false, body)
    | _ => (false, body)
  let base := if hex then 16 else 10
  let (m, afterMant) := readMantissa base digitsText {}
  if !m.sawDigit then none
  else
    let pointAt : Int := (m.beforePoint.getD m.digits : Nat)
    let fracDigits : Int := (m.digits : Int) - pointAt
    let expChar := if hex then 'p' else 'e'
    let expPart : Option (Int × Bool × List Char) := match afterMant with
      | c :: rest =>
        if lowerAscii c = expChar then
          let (esign, afterSign) : Int × List Char := match rest with
            | '+' :: r => (1, r)
            | '-' :: r => (-1, r)
            | r => (1, r)
          match afterSign with
          | d :: _ =>
            if d.isDigit then
              let (e, u, tail) := readExpDigits afterSign 0 false
              some (esign * e, u, tail)
            else none
          | [] => none
        else if hex then none else some (0, false, afterMant)
      | [] => if hex then none else some (0, false, [])
    match expPart with
    | none => none
    | some (e, u, tail) =>
      if !tail.isEmpty then none
      else if (m.underscore || u) && !underscoresOk cs then none
      else if hex then some (neg, m.value, e - 4 * fracDigits, 0)
      else some (neg, m.value, 0, e - fracDigits)

/-- The number of the format nearest to a numeric text. Out-of-range magnitudes are a range
error; text that is not a number is a syntax error. -/
def readFloat (f : FloatFormat) (s : String) : Except ReadError Binary :=
  let cs := s.toList
  match readSpecial cs with
  | some x => .ok x
  | none =>
    match readFinite cs with
    | none => .error .malformed
    | some (neg, m, e2, e10) =>
      if m = 0 then .ok (.finite neg 0 f.minExp)
      else
        -- the binary magnitude, within a few bits: far outside the format needs no arithmetic
        let magnitude : Int := (Nat.log2 m : Int) + e2 + e10 * 3322 / 1000
        if magnitude > (f.emax : Int) + 8 then .error .range
        else if magnitude < f.minExp - 8 then .ok (.finite neg 0 f.minExp)
        else
          let num := m * Nat.pow 2 e2.toNat * Nat.pow 10 e10.toNat
          let den := Nat.pow 2 (-e2).toNat * Nat.pow 10 (-e10).toNat
          match Binary.roundRatio f neg num den with
          | .inf _ => .error .range
          | x => .ok x

end MessageTemplate.Numeric
