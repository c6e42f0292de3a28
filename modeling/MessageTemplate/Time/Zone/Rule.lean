import MessageTemplate.Time.Instant
/-! The rule strings of the time zone database. -/
namespace MessageTemplate.Zone

/-- The day of the year a switch happens on. -/
inductive SwitchDay where
  | julian (n : Nat)
  | ordinal (n : Nat)
  | weekday (month week day : Nat)
deriving Repr, DecidableEq

/-- A switch between standard and daylight time: its day, and its time of day in seconds on the
clock in use before it. -/
structure Switch where
  day : SwitchDay
  time : Int
deriving Repr, DecidableEq

/-- The daylight part of a rule: its offset and the switches that start and end it. -/
structure Daylight where
  offset : Int
  start : Switch
  stop : Switch
deriving Repr, DecidableEq

/-- A zone rule: the standard offset, and daylight time when the zone keeps one. -/
structure Rule where
  standard : Int
  daylight : Option Daylight
deriving Repr, DecidableEq

def readNumber (min max : Nat) (cs : List Char) : Option (Nat × List Char) :=
  let rec go : Nat → List Char → Option (Nat × List Char)
    | n, c :: rest =>
      if c.isDigit then
        let n' := n * 10 + (c.toNat - 48)
        if n' > max then none else go n' rest
      else if n < min then none else some (n, c :: rest)
    | n, [] => if n < min then none else some (n, [])
  match cs with
  | c :: _ => if c.isDigit then go 0 cs else none
  | [] => none

def endsName (c : Char) : Bool := c.isDigit || c = ',' || c = '-' || c = '+'

def readName (cs : List Char) : Option (String × List Char) :=
  match cs with
  | [] => none
  | '<' :: rest =>
    let name := rest.takeWhile (· ≠ '>')
    match rest.drop name.length with
    | '>' :: after => some (String.ofList name, after)
    | _ => none
  | _ =>
    let name := cs.takeWhile (fun c => !endsName c)
    if name.length < 3 then none else some (String.ofList name, cs.drop name.length)

def readOffset (cs : List Char) : Option (Int × List Char) := do
  let (neg, body) := match cs with
    | '+' :: r => (false, r)
    | '-' :: r => (true, r)
    | r => (false, r)
  let signed (n : Nat) : Int := if neg then -(n : Int) else n
  let (h, r1) ← readNumber 0 (24 * 7) body
  match r1 with
  | ':' :: r2 =>
    let (m, r3) ← readNumber 0 59 r2
    match r3 with
    | ':' :: r4 =>
      let (s, r5) ← readNumber 0 59 r4
      pure (signed (h * 3600 + m * 60 + s), r5)
    | _ => pure (signed (h * 3600 + m * 60), r3)
  | _ => pure (signed (h * 3600), r1)

def readSwitchDay (cs : List Char) : Option (SwitchDay × List Char) := do
  match cs with
  | 'J' :: rest =>
    let (n, r) ← readNumber 1 365 rest
    pure (.julian n, r)
  | 'M' :: rest =>
    let (m, r1) ← readNumber 1 12 rest
    let r1' ← match r1 with | '.' :: r => some r | _ => none
    let (w, r2) ← readNumber 1 5 r1'
    let r2' ← match r2 with | '.' :: r => some r | _ => none
    let (d, r3) ← readNumber 0 6 r2'
    pure (.weekday m w d, r3)
  | _ =>
    let (n, r) ← readNumber 0 365 cs
    pure (.ordinal n, r)

def readSwitch (cs : List Char) : Option (Switch × List Char) := do
  let (day, rest) ← readSwitchDay cs
  match rest with
  | '/' :: r =>
    let (time, r') ← readOffset r
    pure (⟨day, time⟩, r')
  | _ => pure (⟨day, 7200⟩, rest)

def Rule.parse? (text : String) : Option Rule := do
  let (_, r1) ← readName text.toList
  let (west, r2) ← readOffset r1
  let standard := -west
  match r2 with
  | [] => pure ⟨standard, none⟩
  | ',' :: _ => pure ⟨standard, none⟩
  | _ =>
    let (_, r3) ← readName r2
    let (daylight, r4) ← match r3 with
      | [] => some (standard + 3600, r3)
      | ',' :: _ => some (standard + 3600, r3)
      | _ => (readOffset r3).map fun (w, r) => (-w, r)
    let switches := if r4.isEmpty then ",M3.2.0,M11.1.0".toList else r4
    let r5 ← match switches with
      | ',' :: r => some r
      | ';' :: r => some r
      | _ => none
    let (start, r6) ← readSwitch r5
    let r6' ← match r6 with | ',' :: r => some r | _ => none
    let (stop, r7) ← readSwitch r6'
    if r7.isEmpty then pure ⟨standard, some ⟨daylight, start, stop⟩⟩ else none

def daysBeforeMonth (month : Nat) : Nat :=
  [0, 31, 59, 90, 120, 151, 181, 212, 243, 273, 304, 334].getD (month - 1) 0

def firstWeekday (year : Int) (month : Nat) : Int :=
  let m1 : Int := ((month : Int) + 9) % 12 + 1
  let y0 := if month ≤ 2 then year - 1 else year
  let century := y0.tdiv 100
  let inCentury := y0.tmod 100
  let dow := ((26 * m1 - 2).tdiv 10 + 1 + inCentury + inCentury.tdiv 4 + century.tdiv 4
    - 2 * century).tmod 7
  if dow < 0 then dow + 7 else dow

def Switch.secondsIntoYear (s : Switch) (year : Int) (offset : Int) : Int :=
  let dayOfYear : Int := match s.day with
    | .julian n => (n : Int) - 1 + (if Calendar.isLeap year && n ≥ 60 then 1 else 0)
    | .ordinal n => n
    | .weekday month week day =>
      let first := (day : Int) - firstWeekday year month
      let first := if first < 0 then first + 7 else first
      let monthLength : Int := Calendar.daysInMonth year month
      let last := (List.range (week - 1)).foldl
        (fun (d : Int × Bool) _ => if d.2 || d.1 + 7 ≥ monthLength then (d.1, true)
          else (d.1 + 7, false)) (first, false)
      last.1 + daysBeforeMonth month + (if Calendar.isLeap year && month > 2 then 1 else 0)
  dayOfYear * 86400 + s.time - offset

def Rule.offsetAt (r : Rule) (seconds : Int) : Int :=
  match r.daylight with
  | none => r.standard
  | some d =>
    let (year, _, _) := Calendar.civilFromDays (seconds / 86400)
    let yearStartDay := Calendar.daysFromCivil year 1 1
    let dayOfYear := seconds / 86400 - yearStartDay
    let intoYear := dayOfYear * 86400 + seconds.tmod 86400
    let start := d.start.secondsIntoYear year r.standard
    let stop := d.stop.secondsIntoYear year d.offset
    let (first, second, outside, inside) :=
      if stop < start then (stop, start, d.offset, r.standard)
      else (start, stop, r.standard, d.offset)
    if intoYear < first then outside
    else if intoYear ≥ second then outside
    else inside

end MessageTemplate.Zone
