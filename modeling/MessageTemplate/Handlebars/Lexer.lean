import MessageTemplate.Handlebars.Token
import MessageTemplate.Unicode.Category
/-! Splitting a handlebars template into tokens. -/
namespace MessageTemplate.Handlebars

def isBlank (c : Char) : Bool := c = ' ' || c = '\t' || c = '\n' || c = '\r' || c.toNat = 12

def isIgnorable (c : Char) : Bool := c = ' ' || c = '\t' || c = '\n' || c = '\r'

def nameStops : List Char := " \n\t!\"#%&'()*+,./;<=>@[\\]^`\x7b|\x7d~".toList

def isNameChar (c : Char) : Bool := !nameStops.contains c

def isPathFollower (c : Char) : Bool := isBlank c || "=~\x7d/)|".toList.contains c

def isLiteralFollower (c : Char) : Bool := isBlank c || "~\x7d)".toList.contains c

/-- Whether a text starts with a pattern. -/
def startsWith (cs : List Char) (p : String) : Bool := p.toList.isPrefixOf cs

/-- The number of bytes of some characters in UTF-8. -/
def byteLength (cs : List Char) : Nat := (cs.map Text.byteWidth).foldl (· + ·) 0

def blankCount (cs : List Char) : Nat := (cs.takeWhile isBlank).length

def openLength : List Char → Option Nat
  | '{' :: '{' :: '~' :: _ => some 3
  | '{' :: '{' :: _ => some 2
  | _ => none

def closeLength (cs : List Char) : Option Nat :=
  if startsWith cs "~\x7d\x7d" then some 3 else if startsWith cs "\x7d\x7d" then some 2 else none

def markerLength (cs : List Char) (marker : Char) : Option Nat := do
  let n ← openLength cs
  match cs.drop n with
  | c :: _ => if c = marker then some (n + 1) else none
  | [] => none

def elseLength (cs : List Char) : Option Nat := do
  let n ← openLength cs
  let b := blankCount (cs.drop n)
  if startsWith (cs.drop (n + b)) "else" then some (n + b + 4) else none

def inverseLength (cs : List Char) : Option Nat :=
  let closing (k : Nat) : Option Nat := do
    let b := blankCount (cs.drop k)
    let c ← closeLength (cs.drop (k + b))
    some (k + b + c)
  match markerLength cs '^' with
  | some k => closing k
  | none =>
    match elseLength cs with
    | some k => closing k
    | none => none

def openingTag (cs : List Char) : TokenKind × Nat :=
  if startsWith cs "\x7b\x7b\x7b\x7b/" then (.rawBlockEnd, 5)
  else if startsWith cs "\x7b\x7b\x7b\x7b" then (.rawBlock, 4)
  else match markerLength cs '{' with
  | some n => (.rawMustache, n)
  | none => match markerLength cs '#' with
  | some n => (.block, if startsWith (cs.drop n) "*" then n + 1 else n)
  | none => match markerLength cs '/' with
  | some n => (.endBlock, n)
  | none => match markerLength cs '>' with
  | some n => (.partialOpen, n)
  | none => match inverseLength cs with
  | some n => (.inverse, n)
  | none => match markerLength cs '^' with
  | some n => (.inverseOpen, n)
  | none => match elseLength cs with
  | some n => (.inverseChain, n)
  | none => match markerLength cs '&' with
  | some n => (.mustache, n)
  | none => (.mustache, (openLength cs).getD 2)

def commentOpening (cs : List Char) : Option Bool := do
  let n ← markerLength cs '!'
  some (startsWith (cs.drop n) "--")

def commentClose (long : Bool) (cs : List Char) : Option Nat :=
  let b := blankCount cs
  let rest := cs.drop b
  if long then
    if startsWith rest "--" then (closeLength (rest.drop 2)).map (b + 2 + ·) else none
  else (closeLength rest).map (b + ·)

def commentLength (long : Bool) (cs : List Char) : Option Nat :=
  let rec go : List Char → Nat → Option Nat
    | [], _ => none
    | c :: rest, k =>
      match commentClose long (c :: rest) with
      | some n => some (k + n)
      | none => go rest (k + 1)
  go cs 0

def closingTag (cs : List Char) : TokenKind × Nat :=
  if startsWith cs "\x7d\x7d\x7d\x7d" then (.rawBlockClose, 4)
  else if startsWith cs "\x7d\x7d\x7d" || startsWith cs "\x7d~\x7d\x7d" then
    (.rawClose, if startsWith cs "\x7d\x7d\x7d" then 3 else 4)
  else (.close, (closeLength cs).getD 2)

def atClose (cs : List Char) : Bool :=
  startsWith cs "\x7d\x7d" || startsWith cs "~\x7d\x7d" || startsWith cs "\x7d~\x7d\x7d"

def isWordChar (c : Char) : Bool := c = '_' || Unicode.lettersAndDigits.contains c.toNat

def acceptOne (set : String) : List Char → Nat
  | c :: _ => if set.toList.contains c then 1 else 0
  | [] => 0

def scanNumber (cs : List Char) : Bool × Nat :=
  let k := acceptOne "+-" cs
  let (k, hex) := match cs.drop k with
    | '0' :: x :: _ => if x = 'x' || x = 'X' then (k + 2, true) else (k, false)
    | _ => (k, false)
  let digit (c : Char) : Bool :=
    c.isDigit || (hex && (('a' ≤ c && c ≤ 'f') || ('A' ≤ c && c ≤ 'F')))
  let k := k + ((cs.drop k).takeWhile digit).length
  let k := if startsWith (cs.drop k) "." then k + 1 + ((cs.drop (k + 1)).takeWhile digit).length
    else k
  let k := if acceptOne "eE" (cs.drop k) = 1 then
      let k := k + 1 + acceptOne "+-" (cs.drop (k + 1))
      k + ((cs.drop k).takeWhile Char.isDigit).length
    else k
  let k := k + acceptOne "i" (cs.drop k)
  match cs.drop k with
  | c :: _ => if isWordChar c then (false, k + 1) else (true, k)
  | [] => (true, k)

def numberToken (cs : List Char) : Except (List Char) Nat :=
  match scanNumber cs with
  | (false, k) => .error (cs.take k)
  | (true, k) =>
    if acceptOne "+-" (cs.drop k) = 1 then
      match scanNumber (cs.drop k) with
      | (true, j) =>
        if (cs.take (k + j)).getLast? = some 'i' then .ok (k + j) else .error (cs.take (k + j))
      | (false, j) => .error (cs.take (k + j))
    else .ok k

def keywordLength (cs : List Char) (word : String) : Option Nat :=
  if startsWith cs word then
    match cs.drop word.length with
    | c :: _ => if isLiteralFollower c then some word.length else none
    | [] => none
  else none

def paramsOpenLength (cs : List Char) : Option Nat :=
  if startsWith cs "as" then
    let b := blankCount (cs.drop 2)
    if b > 0 && startsWith (cs.drop (2 + b)) "|" then some (3 + b) else none
  else none

def patternToken (cs : List Char) : Option (TokenKind × Nat) :=
  match paramsOpenLength cs with
  | some n => some (.paramsOpen, n)
  | none =>
    if startsWith cs ".." then some (.id, 2)
    else
      let dot := match cs with
        | '.' :: c :: _ => isPathFollower c
        | _ => false
      if dot then some (.id, 1)
      else match keywordLength cs "true" with
      | some n => some (.boolean, n)
      | none => (keywordLength cs "false").map fun n => (.boolean, n)

def quotedLength (delim : Char) : List Char → Char → Option Nat
  | [], _ => none
  | c :: rest, prev =>
    if c = '\n' then none
    else if c = delim && prev ≠ '\\' then some 0
    else (quotedLength delim rest c).map (· + 1)

def unescapeQuotes (delim : Char) : List Char → List Char
  | '\\' :: c :: rest => if c = delim then c :: unescapeQuotes delim rest else '\\' :: unescapeQuotes delim (c :: rest)
  | c :: rest => c :: unescapeQuotes delim rest
  | [] => []

def contentSpan : List Char → List Char × List Char
  | [] => ([], [])
  | c :: rest =>
    if startsWith (c :: rest) "\\\\\x7b\x7b" || startsWith (c :: rest) "\\\x7b\x7b" ||
        startsWith (c :: rest) "\x7b\x7b" then ([], c :: rest)
    else
      let (t, r) := contentSpan rest
      (c :: t, r)

def rawSpan : List Char → Option (List Char × List Char)
  | [] => none
  | c :: rest =>
    if startsWith (c :: rest) "\x7b\x7b\x7b\x7b/" then some ([], c :: rest)
    else (rawSpan rest).map fun (t, r) => (c :: t, r)

/-- What the lexer is reading. -/
inductive Mode where
  | content (carry : List Char)
  | expression

/-- The state of the lexer: tokens so far, the byte offset and line of the rest, and whether
the content ahead is the body of a raw block. -/
structure LexState where
  tokens : Array Token
  pos : Nat
  line : Nat
  inRaw : Bool

def LexState.emit (st : LexState) (kind : TokenKind) (cs : List Char) : LexState :=
  { st with tokens := st.tokens.push ⟨kind, String.ofList cs, st.pos, st.line⟩,
            pos := st.pos + byteLength cs, line := st.line + cs.count '\n' }

/-- Move past some characters without a token. -/
def LexState.skip (st : LexState) (cs : List Char) : LexState :=
  { st with pos := st.pos + byteLength cs }

def LexState.fail (st : LexState) (pos : Nat) (message : String) : Array Token :=
  st.tokens.push ⟨.error, message, pos, st.line⟩

/-- Add an opening tag of some kind and length, and go on inside it. -/
def LexState.opening (st : LexState) (kind : TokenKind) (cs : List Char) : LexState :=
  let s := st.emit kind cs
  if kind = .rawBlock then { s with inRaw := true } else s

def lexFrom : Nat → Mode → List Char → LexState → Array Token
  | 0, _, _, st => st.fail st.pos "Unclosed expression"
  | fuel + 1, .content carry, cs, st =>
    if st.inRaw then
      match rawSpan cs with
      | none => st.fail st.pos "Unclosed raw block"
      | some (text, rest) =>
        let s := if text.isEmpty then st else st.emit .content text
        let (kind, n) := openingTag rest
        lexFrom fuel .expression (rest.drop n) ({ s with inRaw := false }.emit kind (rest.take n))
    else
    let (text, rest) := contentSpan cs
    let start : LexState := { st with pos := st.pos - byteLength carry }
    let withContent (s : LexState) (extra : List Char) : LexState :=
      if (carry ++ text ++ extra).isEmpty then s else s.emit .content (carry ++ text ++ extra)
    match rest with
    | [] => (withContent start []).emit .eof [] |>.tokens
    | '\\' :: '\\' :: more =>
      lexFrom fuel (.content []) more ((withContent start ['\\']).skip ['\\'])
    | '\\' :: more =>
      let braces := more.takeWhile (· = '{')
      let s := (withContent start []).skip ['\\']
      lexFrom fuel (.content braces) (more.drop braces.length) (s.skip braces)
    | _ =>
      let s := withContent start []
      match commentOpening rest with
      | some long =>
        match commentLength long rest with
        | some n => lexFrom fuel (.content []) (rest.drop n) (s.emit .comment (rest.take n))
        | none => s.fail s.pos "Unclosed comment"
      | none =>
        let (kind, n) := openingTag rest
        let next := if kind = .inverse then Mode.content [] else .expression
        lexFrom fuel next (rest.drop n) (s.opening kind (rest.take n))
  | fuel + 1, .expression, cs, st =>
    if atClose cs then
      let (kind, n) := closingTag cs
      lexFrom fuel (.content []) (cs.drop n) (st.emit kind (cs.take n))
    else
      match patternToken cs with
      | some (kind, n) => lexFrom fuel .expression (cs.drop n) (st.emit kind (cs.take n))
      | none =>
        match cs with
        | [] => st.fail st.pos "Unclosed expression"
        | c :: rest =>
          if isIgnorable c then
            let blanks := (c :: rest).takeWhile isIgnorable
            lexFrom fuel .expression ((c :: rest).drop blanks.length) (st.skip blanks)
          else if c = '(' then lexFrom fuel .expression rest (st.emit .sexprOpen [c])
          else if c = ')' then lexFrom fuel .expression rest (st.emit .sexprClose [c])
          else if c = '=' then lexFrom fuel .expression rest (st.emit .equals [c])
          else if c = '@' then lexFrom fuel .expression rest (st.emit .data [c])
          else if c = '/' || c = '.' then lexFrom fuel .expression rest (st.emit .sep [c])
          else if c = '|' then lexFrom fuel .expression rest (st.emit .paramsClose [c])
          else if c = '+' || c = '-' || c.isDigit then
            match numberToken (c :: rest) with
            | .ok n =>
              lexFrom fuel .expression ((c :: rest).drop n) (st.emit .number ((c :: rest).take n))
            | .error bad => st.fail st.pos ("bad number syntax: " ++ Text.quote (String.ofList bad))
          else if c = '"' || c = '\'' then
            let s := st.skip [c]
            match quotedLength c rest ' ' with
            | none => s.fail s.pos "Unterminated string"
            | some n =>
              let body := rest.take n
              let tok : Token := ⟨.string, String.ofList (unescapeQuotes c body), s.pos, s.line⟩
              let s := { s with tokens := s.tokens.push tok, pos := s.pos + byteLength body + 1 }
              lexFrom fuel .expression (rest.drop (n + 1)) s
          else if c = '[' then
            let body := rest.takeWhile fun d => d ≠ ']' && d ≠ '\n'
            match rest.drop body.length with
            | ']' :: more => lexFrom fuel .expression more (st.emit .id (c :: body ++ [']']))
            | _ => st.fail st.pos "Unterminated path literal"
          else if isNameChar c then
            let name := (c :: rest).takeWhile isNameChar
            lexFrom fuel .expression ((c :: rest).drop name.length) (st.emit .id name)
          else st.fail st.pos ("Unexpected character in expression: '" ++ String.singleton c ++ "'")

/-- The tokens of a template, ending with the end of input or an error. -/
def lex (src : String) : List Token :=
  let cs := src.toList
  (lexFrom (2 * cs.length + 4) (.content []) cs ⟨#[], 0, 1, false⟩).toList

end MessageTemplate.Handlebars
