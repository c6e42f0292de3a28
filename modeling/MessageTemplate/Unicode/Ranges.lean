/-! Sets of code points kept as inclusive ranges. -/
namespace MessageTemplate.Unicode

def maxCode : Nat := 0x10FFFF

def hexValue (ds : List Char) : Nat :=
  ds.foldl (fun acc d =>
    let v := if d.isDigit then d.toNat - 48
      else if 'a' ≤ d && d ≤ 'f' then d.toNat - 87
      else if 'A' ≤ d && d ≤ 'F' then d.toNat - 55
      else 0
    acc * 16 + v) 0

def readRange (item : String) : Nat × Nat :=
  match item.splitOn "-" with
  | [lo, hi] => (hexValue lo.toList, hexValue hi.toList)
  | _ => let v := hexValue item.toList; (v, v)

def readRanges (text : String) : List (Nat × Nat) :=
  ((text.splitOn ",").filter (· ≠ "")).map readRange

/-- One run of a mapping: its first and last code points, the step between the code points it
covers, and the amount each is moved by. -/
structure Run where
  lo : Nat
  hi : Nat
  step : Nat
  delta : Int
deriving Repr, Inhabited

def readRun (item : String) : Run :=
  match item.splitOn ":" with
  | [span, shift] =>
    let (range, step) := match span.splitOn "/" with
      | [r, s] => (r, hexValue s.toList)
      | _ => (span, 1)
    let (lo, hi) := readRange range
    let delta : Int := match shift.toList with
      | '-' :: ds => -(hexValue ds : Int)
      | '+' :: ds => hexValue ds
      | ds => hexValue ds
    ⟨lo, hi, max step 1, delta⟩
  | _ => ⟨0, 0, 1, 0⟩

def readRuns (text : String) : Array Run :=
  (((text.splitOn ",").filter (· ≠ "")).map readRun).toArray

def Run.covers (r : Run) (c : Nat) : Bool := r.lo ≤ c && c ≤ r.hi && (c - r.lo) % r.step = 0

def lastAtMost {α : Type} [Inhabited α] (key : α → Nat) (xs : Array α) (c lo hi : Nat) : Nat :=
  if h : lo + 1 < hi then
    let mid := (lo + hi) / 2
    if key (xs.getD mid default) ≤ c then lastAtMost key xs c mid hi
    else lastAtMost key xs c lo mid
  else lo
termination_by hi - lo
decreasing_by all_goals omega

/-- What a mapping gives a code point: the code point moved by the run covering it, or the
code point itself. The runs must be in increasing order and apart. -/
def Run.apply (runs : Array Run) (c : Nat) : Nat :=
  if runs.isEmpty then c
  else
    let r := runs.getD (lastAtMost Run.lo runs c 0 runs.size) default
    if r.covers c then (c + r.delta).toNat else c

/-- Ranges in increasing order with overlapping or touching ranges joined. -/
def normalize (rs : List (Nat × Nat)) : List (Nat × Nat) :=
  let sorted := rs.mergeSort fun a b => a.1 ≤ b.1
  (sorted.foldl (fun acc r =>
    match acc with
    | (lo, hi) :: rest => if r.1 ≤ hi + 1 then (lo, max hi r.2) :: rest else r :: acc
    | [] => [r]) []).reverse

def gaps (start : Nat) : List (Nat × Nat) → List (Nat × Nat)
  | [] => if start ≤ maxCode then [(start, maxCode)] else []
  | (lo, hi) :: rest =>
    let tail := gaps (hi + 1) rest
    if start < lo then (start, lo - 1) :: tail else tail

/-- The code points not in normalized ranges. -/
def complement (rs : List (Nat × Nat)) : List (Nat × Nat) := gaps 0 rs

/-- A set of code points ready for lookups: normalized ranges in an array. -/
structure CodeSet where
  ranges : Array (Nat × Nat)
deriving Repr, Inhabited

namespace CodeSet

def ofRanges (rs : List (Nat × Nat)) : CodeSet := ⟨(normalize rs).toArray⟩

/-- Whether a code point is in the set. -/
def contains (s : CodeSet) (c : Nat) : Bool :=
  if s.ranges.isEmpty then false
  else
    let (lo, hi) := s.ranges.getD (lastAtMost Prod.fst s.ranges c 0 s.ranges.size) (0, 0)
    lo ≤ c && c ≤ hi

end CodeSet

end MessageTemplate.Unicode
