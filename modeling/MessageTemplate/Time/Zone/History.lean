import MessageTemplate.Time.Zone.Rule
/-! A zone's recorded history: its kinds of local time, its changes, and the rule after them. -/
namespace MessageTemplate.Zone

/-- A kind of local time: its offset east of universal time in seconds, and whether it is
daylight time. -/
structure LocalKind where
  offset : Int
  daylight : Bool
deriving Repr, DecidableEq

/-- A change of a zone's clocks: the instant it takes effect, in seconds since 1970, and the
index of the kind of local time kept from then on. -/
structure Change where
  instant : Int
  kind : Nat
deriving Repr, DecidableEq

/-- A zone's kinds of local time, its changes in order of time, and the rule after the last. -/
structure History where
  kinds : List LocalKind
  changes : List Change
  rule : Option Rule
deriving Repr

def digit36? (c : Char) : Option Nat :=
  if c.isDigit then some (c.toNat - 48)
  else if 'a' ≤ c && c ≤ 'z' then some (c.toNat - 87)
  else none

def readChanges (previous : Option Int) (negative : Bool) (number : Nat) :
    List Char → List Change
  | [] => []
  | c :: rest =>
    if c = '-' then readChanges previous true number rest
    else
      match digit36? c with
      | some d => readChanges previous negative (number * 36 + d) rest
      | none =>
        let value : Int := if negative then -(number : Int) else number
        let instant := match previous with
          | some p => p + value
          | none => value
        ⟨instant, c.toNat - 65⟩ :: readChanges (some instant) false 0 rest

def readKind (text : String) : LocalKind :=
  let cs := text.toList
  let daylight := cs.getLast? = some 'd'
  let digits := if daylight then cs.dropLast else cs
  ⟨(String.ofList digits).toInt?.getD 0, daylight⟩

/-- The history a text stores. -/
def History.read (text : String) : History :=
  match text.splitOn "|" with
  | [kinds, changes, rule] =>
    ⟨(kinds.splitOn ",").map readKind, readChanges none false 0 changes.toList, Rule.parse? rule⟩
  | _ => ⟨[], [], none⟩

def History.isStandard (h : History) (i : Nat) : Bool :=
  match h.kinds[i]? with
  | some k => !k.daylight
  | none => false

def History.initialKind (h : History) : Nat :=
  if !h.changes.any (·.kind = 0) then 0
  else
    let nearest := match h.changes.head? with
      | some c =>
        if h.isStandard c.kind || h.kinds[c.kind]?.isNone then none
        else (List.range c.kind).reverse.find? h.isStandard
      | none => none
    match nearest with
    | some i => i
    | none => ((List.range h.kinds.length).find? h.isStandard).getD 0

def History.offsetOf (h : History) (i : Nat) : Int :=
  match h.kinds[i]? with
  | some k => k.offset
  | none => 0

def History.offsetAt (h : History) (seconds : Int) : Int :=
  match h.changes with
  | [] =>
    match h.rule with
    | some r => r.offsetAt seconds
    | none => h.offsetOf 0
  | first :: _ =>
    if seconds < first.instant then h.offsetOf h.initialKind
    else
      let passed := h.changes.filter (·.instant ≤ seconds)
      match passed.getLast?, h.rule with
      | some last, some r =>
        if passed.length = h.changes.length then r.offsetAt seconds else h.offsetOf last.kind
      | some last, none => h.offsetOf last.kind
      | none, _ => h.offsetOf h.initialKind

end MessageTemplate.Zone
