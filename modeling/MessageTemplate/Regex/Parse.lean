import MessageTemplate.Regex.Syntax
import MessageTemplate.Unicode.Case
import MessageTemplate.Unicode.Category
import MessageTemplate.Unicode.Script
/-! Reading regular expressions in the RE2 dialect with Perl extensions. -/
namespace MessageTemplate.Regex

open Unicode

/-- The part of a text in front of one of its suffixes. -/
def between (before after : List Char) : String :=
  String.ofList (before.take (before.length - after.length))

def hexDigit? (c : Char) : Option Nat :=
  if c.isDigit then some (c.toNat - 48)
  else if 'a' ≤ c && c ≤ 'f' then some (c.toNat - 87)
  else if 'A' ≤ c && c ≤ 'F' then some (c.toNat - 55)
  else none

def isAlnum (c : Char) : Bool := c.isAlpha || c.isDigit

def foldClosure (rs : List (Nat × Nat)) : List (Nat × Nat) :=
  let s := CodeSet.ofRanges rs
  let extra := (foldSuccessors.toList.filter fun p => s.contains p.1).flatMap fun p =>
    (foldingClass p.1).map fun c => (c, c)
  rs ++ extra

def groupRanges (flags : Flags) (negated : Bool) (rs : List (Nat × Nat)) : List (Nat × Nat) :=
  let base := normalize (if flags.foldCase then foldClosure rs else rs)
  if negated then complement base else base

def digitRanges : List (Nat × Nat) := [(48, 57)]

def blankRanges : List (Nat × Nat) := [(9, 10), (12, 13), (32, 32)]

def wordRanges : List (Nat × Nat) := [(48, 57), (65, 90), (95, 95), (97, 122)]

def perlClass? (c : Char) : Option (List (Nat × Nat) × Bool) :=
  if c = 'd' then some (digitRanges, false)
  else if c = 'D' then some (digitRanges, true)
  else if c = 's' then some (blankRanges, false)
  else if c = 'S' then some (blankRanges, true)
  else if c = 'w' then some (wordRanges, false)
  else if c = 'W' then some (wordRanges, true)
  else none

def posixRanges? (name : String) : Option (List (Nat × Nat)) :=
  if name = "alnum" then some [(48, 57), (65, 90), (97, 122)]
  else if name = "alpha" then some [(65, 90), (97, 122)]
  else if name = "ascii" then some [(0, 127)]
  else if name = "blank" then some [(9, 9), (32, 32)]
  else if name = "cntrl" then some [(0, 31), (127, 127)]
  else if name = "digit" then some digitRanges
  else if name = "graph" then some [(33, 126)]
  else if name = "lower" then some [(97, 122)]
  else if name = "print" then some [(32, 126)]
  else if name = "punct" then some [(33, 47), (58, 64), (91, 96), (123, 126)]
  else if name = "space" then some [(9, 13), (32, 32)]
  else if name = "upper" then some [(65, 90)]
  else if name = "word" then some wordRanges
  else if name = "xdigit" then some [(48, 57), (65, 70), (97, 102)]
  else none

def looseName (name : String) : String :=
  String.ofList ((name.toList.filter fun c => c ≠ ' ' && c ≠ '_' && c ≠ '-').map Char.toLower)

def unicodeRanges? (name : String) : Option (List (Nat × Nat)) :=
  let key := looseName name
  let key := match categoryAliases.find? (fun a => looseName a.1 = key) with
    | some (_, short) => looseName short
    | none => key
  if key = "any" then some [(0, maxCode)]
  else if key = "ascii" then some [(0, 127)]
  else if key = "assigned" then some (complement unassignedRanges)
  else
    match categoryNames.find? (fun n => looseName n = key) with
    | some n => categoryByName? n
    | none =>
      match scriptTable.find? (fun s => looseName s.1 = key) with
      | some s => scriptRanges? s.1
      | none => none

def perlClassAt (flags : Flags) : List Char → Option (List (Nat × Nat) × List Char)
  | '\\' :: c :: rest => (perlClass? c).map fun (rs, neg) => (groupRanges flags neg rs, rest)
  | _ => none

def unicodeClassAt (flags : Flags) (t : List Char) :
    Except ParseError (Option (List (Nat × Nat) × List Char)) :=
  match t with
  | '\\' :: p :: after =>
    if p ≠ 'p' && p ≠ 'P' then .ok none
    else
      let neg := p = 'P'
      let (seq, name, rest) : List Char × List Char × List Char :=
        match after with
        | '{' :: _ =>
          let inside := (after.drop 1).takeWhile (· ≠ '}')
          if inside.length + 1 = after.length then ([], [], [])
          else ('\\' :: p :: after.take (inside.length + 2), inside, after.drop (inside.length + 2))
        | c :: more => (['\\', p, c], [c], more)
        | [] => (['\\', p], [], [])
      if seq.isEmpty then .error ⟨.invalidCharRange, String.ofList t⟩
      else
        let (neg, name) := match name with
          | '^' :: n => (!neg, n)
          | n => (neg, n)
        match unicodeRanges? (String.ofList name) with
        | none => .error ⟨.invalidCharRange, String.ofList seq⟩
        | some rs => .ok (some (groupRanges flags neg rs, rest))
  | _ => .ok none

def posixClassAt (flags : Flags) (t : List Char) :
    Except ParseError (Option (List (Nat × Nat) × List Char)) :=
  match t with
  | '[' :: ':' :: body@(_ :: _) =>
    let rec closeAt : List Char → Nat → Option Nat
      | ':' :: ']' :: _, n => some n
      | _ :: more, n => closeAt more (n + 1)
      | [], _ => none
    match closeAt body 0 with
    | none => .ok none
    | some n =>
      let inner := body.take n
      let written := String.ofList ('[' :: ':' :: inner ++ [':', ']'])
      let (neg, plain) := match inner with
        | '^' :: rest => (true, rest)
        | _ => (false, inner)
      match posixRanges? (String.ofList plain) with
      | none => .error ⟨.invalidCharRange, written⟩
      | some rs => .ok (some (groupRanges flags neg rs, body.drop (n + 2)))
  | _ => .ok none

def hexEscape (start : List Char) (t : List Char) : Except ParseError (Nat × List Char) :=
  let bad (rest : List Char) : Except ParseError (Nat × List Char) :=
    .error ⟨.invalidEscape, between start rest⟩
  let rec braced : List Char → Nat → Bool → Except ParseError (Nat × List Char)
    | [], _, _ => bad []
    | d :: more, v, any =>
      if d = '}' then (if any then .ok (v, more) else bad more)
      else
        match hexDigit? d with
        | none => bad more
        | some x => if v * 16 + x > maxCode then bad more else braced more (v * 16 + x) true
  match t with
  | [] => bad []
  | '{' :: body => braced body 0 false
  | a :: rest =>
    match rest with
    | b :: after =>
      match hexDigit? a, hexDigit? b with
      | some x, some y => .ok (x * 16 + y, after)
      | _, _ => bad after
    | [] => bad []

/-- A single-character escape at the head of a text, which starts with a backslash: the code
point and the rest. -/
def escape (t : List Char) : Except ParseError (Nat × List Char) :=
  match t with
  | '\\' :: rest =>
    match rest with
    | [] => .error ⟨.trailingBackslash, ""⟩
    | c :: after =>
      let bad : Except ParseError (Nat × List Char) := .error ⟨.invalidEscape, between t after⟩
      if c.toNat < 128 && !isAlnum c then .ok (c.toNat, after)
      else if '1' ≤ c && c ≤ '7' && !(after.head?.map fun d => '0' ≤ d && d ≤ '7').getD false then
        bad
      else if '0' ≤ c && c ≤ '7' then
        let ds := (after.take 2).takeWhile fun d => '0' ≤ d && d ≤ '7'
        .ok (ds.foldl (fun acc d => acc * 8 + (d.toNat - 48)) (c.toNat - 48), after.drop ds.length)
      else if c = 'x' then hexEscape t after
      else if c = 'a' then .ok (7, after)
      else if c = 'f' then .ok (12, after)
      else if c = 'n' then .ok (10, after)
      else if c = 'r' then .ok (13, after)
      else if c = 't' then .ok (9, after)
      else if c = 'v' then .ok (11, after)
      else bad
  | _ => .error ⟨.trailingBackslash, ""⟩

def classChar (whole : List Char) (t : List Char) : Except ParseError (Nat × List Char) :=
  match t with
  | [] => .error ⟨.missingBracket, String.ofList whole⟩
  | '\\' :: _ => escape t
  | c :: rest => .ok (c.toNat, rest)

def classItems (flags : Flags) (whole : List Char) (fuel : Nat) (acc : List (Nat × Nat))
    (first : Bool) (t : List Char) : Except ParseError (List (Nat × Nat) × List Char) :=
  match fuel with
  | 0 => .error ⟨.missingBracket, String.ofList whole⟩
  | fuel + 1 =>
    match t with
    | ']' :: rest => if first then item fuel t else .ok (acc, rest)
    | _ => item fuel t
where
  item (fuel : Nat) (t : List Char) : Except ParseError (List (Nat × Nat) × List Char) := do
    match ← posixClassAt flags t with
    | some (rs, rest) => classItems flags whole fuel (acc ++ rs) false rest
    | none =>
      match ← unicodeClassAt flags t with
      | some (rs, rest) => classItems flags whole fuel (acc ++ rs) false rest
      | none =>
        match perlClassAt flags t with
        | some (rs, rest) => classItems flags whole fuel (acc ++ rs) false rest
        | none =>
          let (lo, rest) ← classChar whole t
          let (hi, rest) ← match rest with
            | '-' :: d :: more => if d = ']' then pure (lo, rest) else classChar whole (d :: more)
            | _ => pure (lo, rest)
          if hi < lo then .error ⟨.invalidCharRange, between t rest⟩
          else
            let rs := if flags.foldCase then foldClosure [(lo, hi)] else [(lo, hi)]
            classItems flags whole fuel (acc ++ rs) false rest

def bracketClass (flags : Flags) (t : List Char) : Except ParseError (Re × List Char) := do
  let body := t.drop 1
  let (neg, body) := match body with
    | '^' :: rest => (true, rest)
    | _ => (false, body)
  let (rs, rest) ← classItems flags t (body.length + 1) [] true body
  let base := normalize rs
  pure (.set (CodeSet.ofRanges (if neg then complement base else base)), rest)

def readCount : List Char → Option (Nat × List Char)
  | c :: rest =>
    if !c.isDigit then none
    else if c = '0' && (rest.head?.map Char.isDigit).getD false then none
    else
      let ds := (c :: rest).takeWhile Char.isDigit
      some (ds.foldl (fun acc d => acc * 10 + (d.toNat - 48)) 0, (c :: rest).drop ds.length)
  | [] => none

def countedRepeat (t : List Char) : Option ((Nat × Option Nat) × List Char) := do
  let body ← match t with | '{' :: b => some b | _ => none
  let (lo, s) ← readCount body
  let (hi, s) ← match s with
    | ',' :: '}' :: _ => some (none, s.drop 1)
    | ',' :: more => do let (m, r) ← readCount more; some (some m, r)
    | _ :: _ => some (some lo, s)
    | [] => none
  match s with
  | '}' :: rest => some ((lo, hi), rest)
  | _ => none

/-- An open group while reading: the flags to restore when it closes, its finished alternatives
and the items of the current one, the last first. -/
structure Frame where
  saved : Flags
  done : List (List Re)
  items : List Re
deriving Inhabited

/-- The expression a group's alternatives make. -/
def Frame.close (f : Frame) : Re :=
  let part : List Re → Re := fun items =>
    match items with
    | [] => .empty
    | [r] => r
    | rs => .seq rs
  match f.done ++ [f.items.reverse] with
  | [one] => part one
  | alts => .alt (alts.map part)

/-- The state of the reader: the flags in force, the open groups with the innermost first and
the whole expression last, and the text from the last repetition operator when the last thing
read was one. -/
structure Reader where
  flags : Flags
  frames : List Frame
  lastRepeat : Option (List Char)
deriving Inhabited

namespace Reader

/-- The reader with an item added to the current alternative. -/
def push (p : Reader) (r : Re) : Reader :=
  match p.frames with
  | f :: fs => { p with frames := { f with items := r :: f.items } :: fs, lastRepeat := none }
  | [] => { p with frames := [⟨p.flags, [], [r]⟩], lastRepeat := none }

/-- The reader with a literal added, matching regardless of case when folding is on. -/
def literal (p : Reader) (c : Nat) : Reader := p.push (.literal c p.flags.foldCase)

def checkHeight (whole : List Char) (r : Re) : Except ParseError Unit :=
  if r.height > maxHeight then .error ⟨.nestingDepth, String.ofList whole⟩ else .ok ()

def repetition (whole : List Char) (p : Reader) (make : Re → Re) (counted : Bool)
    (before after : List Char) : Except ParseError (Reader × List Char) := do
  let after := match after with
    | '?' :: more => more
    | _ => after
  if let some last := p.lastRepeat then
    throw ⟨.invalidRepeatOp, between last after⟩
  match p.frames with
  | f :: fs =>
    match f.items with
    | r :: rest =>
      let node := make r
      checkHeight whole node
      if counted && !node.repeatsFit maxRepeat then
        throw ⟨.invalidRepeatSize, between before after⟩
      pure ({ p with frames := { f with items := node :: rest } :: fs, lastRepeat := some before },
        after)
    | [] => throw ⟨.missingRepeatArgument, between before after⟩
  | [] => throw ⟨.missingRepeatArgument, between before after⟩

def bar (p : Reader) : Reader :=
  match p.frames with
  | f :: fs =>
    let g : Frame := { f with done := f.done ++ [f.items.reverse], items := [] }
    { p with frames := g :: fs, lastRepeat := none }
  | [] => p

def openGroup (p : Reader) : Reader :=
  { p with frames := ⟨p.flags, [], []⟩ :: p.frames, lastRepeat := none }

def closeGroup (whole : List Char) (p : Reader) : Except ParseError Reader := do
  match p.frames with
  | f :: outer :: fs =>
    let node := Re.group f.close
    checkHeight whole node
    pure ({ p with flags := f.saved, frames := outer :: fs, lastRepeat := none }.push node)
  | _ => throw ⟨.unexpectedParen, String.ofList whole⟩

def validName (name : List Char) : Bool := !name.isEmpty && name.all fun c => isAlnum c || c = '_'

def perlGroup (p : Reader) (t : List Char) : Except ParseError (Reader × List Char) := do
  let named : Option Nat :=
    match t with
    | '(' :: '?' :: 'P' :: '<' :: _ :: _ => some 4
    | '(' :: '?' :: '<' :: _ :: _ => some 3
    | _ => none
  match named with
  | some start =>
    let upTo := t.takeWhile (· ≠ '>')
    if upTo.length = t.length then throw ⟨.invalidNamedCapture, String.ofList t⟩
    let name := upTo.drop start
    if !validName name then throw ⟨.invalidNamedCapture, String.ofList (upTo ++ ['>'])⟩
    pure (p.openGroup, t.drop (upTo.length + 1))
  | none =>
    let rec flagsFrom : List Char → Flags → Bool → Bool → Except ParseError (Reader × List Char)
      | [], _, _, _ => .error ⟨.invalidPerlOp, String.ofList t⟩
      | c :: rest, flags, neg, saw =>
        let bad : Except ParseError (Reader × List Char) := .error ⟨.invalidPerlOp, between t rest⟩
        if c = 'i' then flagsFrom rest { flags with foldCase := !neg } neg true
        else if c = 'm' then flagsFrom rest { flags with multiLine := !neg } neg true
        else if c = 's' then flagsFrom rest { flags with dotAll := !neg } neg true
        else if c = 'U' then flagsFrom rest { flags with ungreedy := !neg } neg true
        else if c = '-' then (if neg then bad else flagsFrom rest flags true false)
        else if c = ':' || c = ')' then
          if neg && !saw then bad
          else
            let opened := if c = ':' then p.openGroup else { p with lastRepeat := none }
            .ok ({ opened with flags := flags }, rest)
        else bad
    flagsFrom (t.drop 2) p.flags false false

/-- Read one token at the head of a nonempty text. -/
def step (whole : List Char) (p : Reader) (t : List Char) : Except ParseError (Reader × List Char) :=
  match t with
  | [] => .ok (p, [])
  | c :: rest =>
    if c = '(' then
      if rest.head? = some '?' then p.perlGroup t else .ok (p.openGroup, rest)
    else if c = '|' then .ok (p.bar, rest)
    else if c = ')' then do let q ← p.closeGroup whole; pure (q, rest)
    else if c = '^' then
      .ok (p.push (.anchor (if p.flags.multiLine then .beginLine else .beginText)), rest)
    else if c = '$' then
      .ok (p.push (.anchor (if p.flags.multiLine then .endLine else .endText)), rest)
    else if c = '.' then .ok (p.push (if p.flags.dotAll then .anyChar else .anyButNewline), rest)
    else if c = '[' then do
      let (r, rest) ← bracketClass p.flags t
      pure (p.push r, rest)
    else if c = '*' then p.repetition whole .star false t rest
    else if c = '+' then p.repetition whole .plus false t rest
    else if c = '?' then p.repetition whole .quest false t rest
    else if c = '{' then
      match countedRepeat t with
      | none => .ok (p.literal c.toNat, rest)
      | some ((lo, hi), after) =>
        if lo > maxRepeat || (hi.getD 0) > maxRepeat || (match hi with | some m => lo > m | none => false)
        then .error ⟨.invalidRepeatSize, between t after⟩
        else p.repetition whole (fun r => .rep r lo hi) (lo ≥ 2 || (hi.getD 0) ≥ 2) t after
    else if c = '\\' then
      match rest with
      | 'A' :: more => .ok (p.push (.anchor .beginText), more)
      | 'b' :: more => .ok (p.push (.anchor .wordBoundary), more)
      | 'B' :: more => .ok (p.push (.anchor .notWordBoundary), more)
      | 'C' :: more => .error ⟨.invalidEscape, between t more⟩
      | 'z' :: more => .ok (p.push (.anchor .endText), more)
      | 'Q' :: more =>
        let rec quoted : List Char → List Char × List Char
          | '\\' :: 'E' :: after => ([], after)
          | d :: after => let (lit, r) := quoted after; (d :: lit, r)
          | [] => ([], [])
        let (lit, after) := quoted more
        .ok (lit.foldl (fun q d => q.literal d.toNat) { p with lastRepeat := none }, after)
      | _ => do
        match ← unicodeClassAt p.flags t with
        | some (rs, after) => pure (p.push (.set (CodeSet.ofRanges rs)), after)
        | none =>
          match perlClassAt p.flags t with
          | some (rs, after) => pure (p.push (.set (CodeSet.ofRanges rs)), after)
          | none =>
            let (v, after) ← escape t
            pure (p.literal v, after)
    else .ok (p.literal c.toNat, rest)

/-- Read tokens until the text ends. -/
def run (whole : List Char) : Nat → Reader → List Char → Except ParseError Reader
  | 0, p, _ => .ok p
  | fuel + 1, p, t =>
    match t with
    | [] => .ok p
    | _ => do
      let (q, rest) ← step whole p t
      run whole fuel q rest

end Reader

/-- Read a regular expression, with Perl's defaults: `^` and `$` at the ends of the text, `.`
not matching a line break, and case mattering. -/
def parse (pattern : String) : Except ParseError Re := do
  let whole := pattern.toList
  let start : Reader := ⟨{}, [⟨{}, [], []⟩], none⟩
  let p ← Reader.run whole (whole.length + 1) start whole
  match p.frames with
  | [f] =>
    let r := f.close
    Reader.checkHeight whole r
    pure r
  | _ => throw ⟨.missingParen, pattern⟩

end MessageTemplate.Regex
