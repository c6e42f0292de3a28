/-! Instants of time with the clock offset they were written in. -/
namespace MessageTemplate

/-- A point in time as written in a zone. -/
structure Instant where
  seconds : Int
  nanos : Nat
  offset : Int
  zone : String
deriving DecidableEq, Repr, Inhabited

/-- A calendar date and clock time. -/
structure CivilTime where
  year : Int
  month : Nat
  day : Nat
  hour : Nat
  minute : Nat
  second : Nat
deriving DecidableEq, Repr

namespace Calendar

def daysFromCivil (y : Int) (m d : Nat) : Int :=
  let y' : Int := if m ≤ 2 then y - 1 else y
  let era : Int := y' / 400
  let yoe : Int := y' - era * 400
  let mp : Int := if m > 2 then (m : Int) - 3 else (m : Int) + 9
  let doy : Int := (153 * mp + 2) / 5 + (d : Int) - 1
  let doe : Int := yoe * 365 + yoe / 4 - yoe / 100 + doy
  era * 146097 + doe - 719468

def civilFromDays (z : Int) : Int × Nat × Nat :=
  let z' := z + 719468
  let era := z' / 146097
  let doe := z' - era * 146097
  let yoe := (doe - doe / 1460 + doe / 36524 - doe / 146096) / 365
  let y := yoe + era * 400
  let doy := doe - (365 * yoe + yoe / 4 - yoe / 100)
  let mp := (5 * doy + 2) / 153
  let d := doy - (153 * mp + 2) / 5 + 1
  let m := if mp < 10 then mp + 3 else mp - 9
  (if m ≤ 2 then y + 1 else y, m.toNat, d.toNat)

def isLeap (y : Int) : Bool := y % 4 = 0 && (y % 100 ≠ 0 || y % 400 = 0)

def daysInMonth (y : Int) (m : Nat) : Nat :=
  if m = 2 then (if isLeap y then 29 else 28)
  else if m = 4 || m = 6 || m = 9 || m = 11 then 30 else 31

def monthNames : List String :=
  ["January", "February", "March", "April", "May", "June", "July", "August", "September",
    "October", "November", "December"]

def weekdayNames : List String :=
  ["Sunday", "Monday", "Tuesday", "Wednesday", "Thursday", "Friday", "Saturday"]

end Calendar

namespace Instant

def localSeconds (t : Instant) : Int := t.seconds + t.offset

def localDay (t : Instant) : Int := t.localSeconds / 86400

/-- The local calendar date and clock time. -/
def civil (t : Instant) : CivilTime :=
  let (y, m, d) := Calendar.civilFromDays t.localDay
  let secs := (t.localSeconds % 86400).toNat
  ⟨y, m, d, secs / 3600, secs / 60 % 60, secs % 60⟩

/-- The day of the week of the local date, Sunday being 0. -/
def weekday (t : Instant) : Nat := ((t.localDay + 4) % 7).toNat

def yearDay (t : Instant) : Nat :=
  let c := t.civil
  (t.localDay - Calendar.daysFromCivil c.year 1 1).toNat + 1

def toUTC (t : Instant) : Instant := { t with offset := 0, zone := "UTC" }

def readDigits : Nat → List Char → Option (Nat × List Char)
  | 0, cs => some (0, cs)
  | n + 1, c :: cs =>
    if c.isDigit then
      (readDigits n cs).map fun (v, r) => ((c.toNat - 48) * Nat.pow 10 n + v, r)
    else none
  | _ + 1, [] => none

def readFraction (cs : List Char) : Nat × List Char :=
  match cs with
  | p :: rest =>
    let ds := rest.takeWhile Char.isDigit
    if (p = '.' || p = ',') && !ds.isEmpty then
      let nine := (ds.take 9) ++ List.replicate (9 - min 9 ds.length) '0'
      (nine.foldl (fun acc c => acc * 10 + (c.toNat - 48)) 0, rest.dropWhile Char.isDigit)
    else (0, cs)
  | [] => (0, cs)

def readHour : List Char → Option (Nat × List Char)
  | a :: rest =>
    if !a.isDigit then none
    else
      match rest with
      | b :: more => if b.isDigit then some ((a.toNat - 48) * 10 + (b.toNat - 48), more)
        else some (a.toNat - 48, rest)
      | [] => some (a.toNat - 48, [])
  | [] => none

def expect (c : Char) : List Char → Option (List Char)
  | d :: rest => if c = d then some rest else none
  | [] => none

def readZone : List Char → Option (Option Int)
  | ['Z'] => some none
  | [sign, h1, h2, ':', m1, m2] => do
    let (oh, _) ← readDigits 2 [h1, h2]
    let (om, _) ← readDigits 2 [m1, m2]
    if oh > 24 || om > 60 then none
    let v : Int := (oh * 3600 + om * 60 : Nat)
    if sign = '+' then some (some v) else if sign = '-' then some (some (-v)) else none
  | _ => none

def ofRfc3339? (s : String) : Option Instant := do
  let (y, r) ← readDigits 4 s.toList
  let r ← expect '-' r
  let (mo, r) ← readDigits 2 r
  let r ← expect '-' r
  let (d, r) ← readDigits 2 r
  let r ← expect 'T' r
  let (h, r) ← readHour r
  let r ← expect ':' r
  let (mi, r) ← readDigits 2 r
  let r ← expect ':' r
  let (se, r) ← readDigits 2 r
  let (ns, r) := readFraction r
  let zone ← readZone r
  if mo < 1 || mo > 12 || d < 1 || d > Calendar.daysInMonth y mo || h > 23 || mi > 59 || se > 59
  then none
  let localSecs := Calendar.daysFromCivil y mo d * 86400 + (h * 3600 + mi * 60 + se : Nat)
  match zone with
  | none => some ⟨localSecs, ns, 0, "UTC"⟩
  | some off => some ⟨localSecs - off, ns, off, if off = 0 then "UTC" else ""⟩

end Instant

end MessageTemplate
