import MessageTemplate.Numeric.Binary
/-! Durations: signed counts of nanoseconds. -/
namespace MessageTemplate.Duration

def unitNanos : List (String × Nat) :=
  [("ns", 1), ("us", 1000), ("µs", 1000), ("μs", 1000), ("ms", 1000000), ("s", 1000000000),
    ("m", 60000000000), ("h", 3600000000000)]

def fracText (v prec : Nat) : String × Nat :=
  let frac := v % Nat.pow 10 prec
  let digits := (List.range prec).reverse.map fun i => Char.ofNat (48 + frac / Nat.pow 10 i % 10)
  let trimmed := (digits.reverse.dropWhile (· = '0')).reverse
  (if trimmed.isEmpty then "" else String.ofList ('.' :: trimmed), v / Nat.pow 10 prec)

/-- The text of a duration of `ns` nanoseconds. -/
def display (ns : Int) : String :=
  let u := ns.natAbs
  let sign := if ns < 0 then "-" else ""
  if u = 0 then "0s"
  else if u < 1000000000 then
    let (prec, unit) :=
      if u < 1000 then (0, "ns") else if u < 1000000 then (3, "µs") else (6, "ms")
    let (frac, whole) := fracText u prec
    sign ++ toString whole ++ frac ++ unit
  else
    let (frac, secs) := fracText u 9
    let s := toString (secs % 60) ++ frac ++ "s"
    let mins := secs / 60
    if mins = 0 then sign ++ s
    else
      let m := toString (mins % 60) ++ "m" ++ s
      let hours := mins / 60
      if hours = 0 then sign ++ m else sign ++ toString hours ++ "h" ++ m

def quoteText (s : String) : String :=
  let hex (n : Nat) : Char := if n < 10 then Char.ofNat (48 + n) else Char.ofNat (87 + n)
  let bytes (c : Char) : List Nat := (String.singleton c).toUTF8.toList.map (·.toNat)
  let body := s.toList.flatMap fun c =>
    if c.toNat ≥ 0x80 || c.toNat < 0x20 then
      (bytes c).flatMap fun b => ['\\', 'x', hex (b / 16), hex (b % 16)]
    else if c = '"' || c = '\\' then ['\\', c]
    else [c]
  String.ofList ('"' :: body ++ ['"'])

/-- Why a duration could not be read. -/
inductive ReadError where
  | invalid (text : String)
  | missingUnit (text : String)
  | unknownUnit (unit text : String)
deriving DecidableEq, Repr

/-- The message of a duration read error. -/
def ReadError.message : ReadError → String
  | .invalid t => "time: invalid duration " ++ quoteText t
  | .missingUnit t => "time: missing unit in duration " ++ quoteText t
  | .unknownUnit u t => "time: unknown unit " ++ quoteText u ++ " in duration " ++ quoteText t

def leadingInt : List Char → Nat → Option (Nat × List Char)
  | [], x => some (x, [])
  | c :: cs, x =>
    if c.isDigit then
      if x > Nat.pow 2 63 / 10 then none
      else
        let y := x * 10 + (c.toNat - 48)
        if y > Nat.pow 2 63 then none else leadingInt cs y
    else some (x, c :: cs)

def leadingFraction : List Char → Nat → Binary → Bool → Nat × Binary × List Char
  | [], x, scale, _ => (x, scale, [])
  | c :: cs, x, scale, overflow =>
    if c.isDigit then
      if overflow then leadingFraction cs x scale true
      else if x > (Nat.pow 2 63 - 1) / 10 then leadingFraction cs x scale true
      else
        let y := x * 10 + (c.toNat - 48)
        if y > Nat.pow 2 63 then leadingFraction cs x scale true
        else leadingFraction cs y (Binary.mul FloatFormat.double scale (Binary.ofInt FloatFormat.double 10)) false
    else (x, scale, c :: cs)

def readTerm (orig : String) (cs : List Char) (acc : Nat) : Except ReadError (Nat × List Char) :=
  match cs with
  | [] => .error (.invalid orig)
  | c :: _ =>
    if !(c = '.' || c.isDigit) then .error (.invalid orig)
    else
      match leadingInt cs 0 with
      | none => .error (.invalid orig)
      | some (v, r1) =>
        let pre := decide (r1.length ≠ cs.length)
        let (f, scale, r2, post) := match r1 with
          | '.' :: r =>
            let (f, scale, r') := leadingFraction r 0 (Binary.ofInt FloatFormat.double 1) false
            (f, scale, r', decide (r'.length ≠ r.length))
          | _ => (0, Binary.ofInt FloatFormat.double 1, r1, false)
        if !pre && !post then .error (.invalid orig)
        else
          let unitChars := r2.takeWhile fun c => !(c = '.' || c.isDigit)
          let rest := r2.dropWhile fun c => !(c = '.' || c.isDigit)
          if unitChars.isEmpty then .error (.missingUnit orig)
          else
            let u := String.ofList unitChars
            match (unitNanos.find? (·.1 == u)).map (·.2) with
            | none => .error (.unknownUnit u orig)
            | some unit =>
              if v > Nat.pow 2 63 / unit then .error (.invalid orig)
              else
                let whole := v * unit
                let fracNs : Nat :=
                  if f > 0 then
                    let fl := Binary.ofInt FloatFormat.double f
                    let ratio := Binary.div FloatFormat.double (Binary.ofInt FloatFormat.double unit) scale
                    match (Binary.mul FloatFormat.double fl ratio).truncInt? with
                    | some z => z.toNat
                    | none => 0
                  else 0
                let v' := whole + fracNs
                if v' > Nat.pow 2 63 then .error (.invalid orig)
                else
                  let d := acc + v'
                  if d > Nat.pow 2 63 then .error (.invalid orig) else .ok (d, rest)

def readTerms (orig : String) (fuel : Nat) (cs : List Char) (acc : Nat) : Except ReadError Nat :=
  match fuel with
  | 0 => .ok acc
  | fuel + 1 =>
    if cs.isEmpty then .ok acc
    else
      match readTerm orig cs acc with
      | .error e => .error e
      | .ok (d, rest) => readTerms orig fuel rest d

/-- Read a duration such as `1h30m`, `-1.5s` or `250ms`, in nanoseconds. -/
def read (s : String) : Except ReadError Int :=
  let (neg, body) := match s.toList with
    | '-' :: r => (true, r)
    | '+' :: r => (false, r)
    | r => (false, r)
  if body = ['0'] then .ok 0
  else if body.isEmpty then .error (.invalid s)
  else
    match readTerms s (body.length + 1) body 0 with
    | .error e => .error e
    | .ok d =>
      if neg then .ok (-(d : Int))
      else if d > Nat.pow 2 63 - 1 then .error (.invalid s) else .ok d

end MessageTemplate.Duration
