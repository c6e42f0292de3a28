import MessageTemplate.Time.Instant
/-! Time layouts by example. -/
namespace MessageTemplate.TimeLayout

/-- How an offset from UTC is written. -/
inductive OffsetStyle where
  | hms
  | colonHms
  | hm
  | colonHm
  | h
deriving DecidableEq, Repr

/-- A field of a layout. -/
inductive Field where
  | longMonth | shortMonth | numMonth | zeroMonth
  | longWeekday | shortWeekday
  | day | spaceDay | zeroDay | spaceYearDay | zeroYearDay
  | hour | hour12 | zeroHour12 | minute | zeroMinute | second | zeroSecond
  | longYear | shortYear
  | upperMeridiem | lowerMeridiem
  | zoneName
  | offset (style : OffsetStyle) (utcLetter : Bool)
  | fraction (digits : Nat) (trim : Bool) (sep : Char)
deriving DecidableEq, Repr

/-- A piece of a layout: copied text or a field. -/
inductive Piece where
  | text (c : Char)
  | field (f : Field)
deriving DecidableEq, Repr

def startsLower : List Char → Bool
  | c :: _ => 'a' ≤ c && c ≤ 'z'
  | [] => false

def hasPrefix (p : String) (cs : List Char) : Bool := p.toList.isPrefixOf cs

def fractionDigitsModulus : Nat := 4096

def fieldAt (cs : List Char) : Option (Field × Nat) :=
  match cs with
  | 'J' :: rest =>
    if hasPrefix "anuary" rest then some (.longMonth, 7)
    else if hasPrefix "an" rest && !startsLower (rest.drop 2) then some (.shortMonth, 3)
    else none
  | 'M' :: rest =>
    if hasPrefix "onday" rest then some (.longWeekday, 6)
    else if hasPrefix "on" rest && !startsLower (rest.drop 2) then some (.shortWeekday, 3)
    else if hasPrefix "ST" rest then some (.zoneName, 3)
    else none
  | '0' :: c :: rest =>
    if c = '1' then some (.zeroMonth, 2) else if c = '2' then some (.zeroDay, 2)
    else if c = '3' then some (.zeroHour12, 2) else if c = '4' then some (.zeroMinute, 2)
    else if c = '5' then some (.zeroSecond, 2) else if c = '6' then some (.shortYear, 2)
    else if c = '0' && hasPrefix "2" rest then some (.zeroYearDay, 3)
    else none
  | '1' :: rest => if hasPrefix "5" rest then some (.hour, 2) else some (.numMonth, 1)
  | '2' :: rest => if hasPrefix "006" rest then some (.longYear, 4) else some (.day, 1)
  | '_' :: rest =>
    if hasPrefix "2" rest then (if hasPrefix "2006" rest then none else some (.spaceDay, 2))
    else if hasPrefix "_2" rest then some (.spaceYearDay, 3)
    else none
  | '3' :: _ => some (.hour12, 1)
  | '4' :: _ => some (.minute, 1)
  | '5' :: _ => some (.second, 1)
  | 'P' :: 'M' :: _ => some (.upperMeridiem, 2)
  | 'p' :: 'm' :: _ => some (.lowerMeridiem, 2)
  | '-' :: rest =>
    if hasPrefix "070000" rest then some (.offset .hms false, 7)
    else if hasPrefix "07:00:00" rest then some (.offset .colonHms false, 9)
    else if hasPrefix "0700" rest then some (.offset .hm false, 5)
    else if hasPrefix "07:00" rest then some (.offset .colonHm false, 6)
    else if hasPrefix "07" rest then some (.offset .h false, 3)
    else none
  | 'Z' :: rest =>
    if hasPrefix "070000" rest then some (.offset .hms true, 7)
    else if hasPrefix "07:00:00" rest then some (.offset .colonHms true, 9)
    else if hasPrefix "0700" rest then some (.offset .hm true, 5)
    else if hasPrefix "07:00" rest then some (.offset .colonHm true, 6)
    else if hasPrefix "07" rest then some (.offset .h true, 3)
    else none
  | sep :: d :: rest =>
    if (sep = '.' || sep = ',') && (d = '0' || d = '9') then
      let n := (d :: rest).takeWhile (· = d) |>.length
      let digits := n % fractionDigitsModulus
      match (d :: rest).drop n with
      | c :: _ => if c.isDigit then none else some (.fraction digits (d = '9') sep, n + 1)
      | [] => some (.fraction digits (d = '9') sep, n + 1)
    else none
  | _ => none

/-- The pieces of a layout. `_2006` is an underscore followed by the year. -/
def pieces : List Char → List Piece
  | [] => []
  | c :: rest =>
    match fieldAt (c :: rest) with
    | some (f, n) => .field f :: pieces (rest.drop (n - 1))
    | none => .text c :: pieces rest
termination_by cs => cs.length
decreasing_by
  all_goals
    simp only [List.length_drop, List.length_cons]
    omega

/-- The decimal digits of `n`, zero-padded to `width`. -/
def padded (width n : Nat) : String :=
  let ds := Nat.toDigits 10 n
  String.ofList (List.replicate (width - ds.length) '0' ++ ds)

def paddedInt (width : Nat) (z : Int) : String :=
  (if z < 0 then "-" else "") ++ padded width z.natAbs

def offsetText (style : OffsetStyle) (utcLetter : Bool) (offset : Int) : String :=
  if utcLetter && offset = 0 then "Z"
  else
    let sign := if offset < 0 then "-" else "+"
    let a := offset.natAbs
    let minutes := a / 60
    let hours := padded 2 (minutes / 60)
    let mins := padded 2 (minutes % 60)
    let secs := padded 2 (a % 60)
    match style with
    | .hms => sign ++ hours ++ mins ++ secs
    | .colonHms => sign ++ hours ++ ":" ++ mins ++ ":" ++ secs
    | .hm => sign ++ hours ++ mins
    | .colonHm => sign ++ hours ++ ":" ++ mins
    | .h => sign ++ hours

def fractionText (nanos digits : Nat) (trim : Bool) (sep : Char) : String :=
  if trim && (digits = 0 || nanos = 0) then ""
  else
    let nine := (padded 9 nanos).toList
    let kept := if digits < 9 then nine.take digits else nine
    let body := if trim then (kept.reverse.dropWhile (· = '0')).reverse else kept
    if body.isEmpty then "" else String.ofList (sep :: body)

def fieldText (t : Instant) (f : Field) : String :=
  let c := t.civil
  let h12 := if c.hour % 12 = 0 then 12 else c.hour % 12
  match f with
  | .longMonth => Calendar.monthNames.getD (c.month - 1) ""
  | .shortMonth => String.ofList ((Calendar.monthNames.getD (c.month - 1) "").toList.take 3)
  | .numMonth => toString c.month
  | .zeroMonth => padded 2 c.month
  | .longWeekday => Calendar.weekdayNames.getD t.weekday ""
  | .shortWeekday => String.ofList ((Calendar.weekdayNames.getD t.weekday "").toList.take 3)
  | .day => toString c.day
  | .spaceDay => (if c.day < 10 then " " else "") ++ toString c.day
  | .zeroDay => padded 2 c.day
  | .spaceYearDay =>
    let yd := t.yearDay
    (if yd < 100 then " " else "") ++ (if yd < 10 then " " else "") ++ toString yd
  | .zeroYearDay => padded 3 t.yearDay
  | .hour => padded 2 c.hour
  | .hour12 => toString h12
  | .zeroHour12 => padded 2 h12
  | .minute => toString c.minute
  | .zeroMinute => padded 2 c.minute
  | .second => toString c.second
  | .zeroSecond => padded 2 c.second
  | .longYear => paddedInt 4 c.year
  | .shortYear => paddedInt 2 (c.year % 100)
  | .upperMeridiem => if c.hour ≥ 12 then "PM" else "AM"
  | .lowerMeridiem => if c.hour ≥ 12 then "pm" else "am"
  | .zoneName => if t.zone.isEmpty then offsetText .hm false t.offset else t.zone
  | .offset style z => offsetText style z t.offset
  | .fraction n trim sep => fractionText t.nanos n trim sep

end MessageTemplate.TimeLayout

namespace MessageTemplate.Instant

/-- An instant written by a layout. -/
def format (t : Instant) (layout : String) : String :=
  String.join ((TimeLayout.pieces layout.toList).map fun
    | .text c => String.singleton c
    | .field f => TimeLayout.fieldText t f)

def toRfc3339 (t : Instant) : String := t.format "2006-01-02T15:04:05.999999999Z07:00"

/-- The text of an instant as it prints by default: date, clock with its fraction, offset and
zone name. -/
def display (t : Instant) : String := t.format "2006-01-02 15:04:05.999999999 -0700 MST"

end MessageTemplate.Instant
