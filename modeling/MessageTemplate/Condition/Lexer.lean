import MessageTemplate.Text.Quote
/-! The tokens of the condition language. -/
namespace MessageTemplate.Condition

/-- The kinds of tokens, numbered in the order expected-token sets are listed. -/
inductive Kind where
  | eq | ne | kwIn | lt | le | ge | gt | and | or
  | lbracket | rbracket | lbrace | rbrace | lparen | rparen
  | dot | comma | minus | bang | question | colon
  | plus | star | slash | percent
  | kwTrue | kwFalse | kwNull
  | float | int | uint | string | bytes | ident
  | eof
deriving DecidableEq, Repr, Inhabited

namespace Kind

def rank : Kind → Nat
  | .eq => 1 | .ne => 2 | .kwIn => 3 | .lt => 4 | .le => 5 | .ge => 6 | .gt => 7
  | .and => 8 | .or => 9 | .lbracket => 10 | .rbracket => 11 | .lbrace => 12 | .rbrace => 13
  | .lparen => 14 | .rparen => 15 | .dot => 16 | .comma => 17 | .minus => 18 | .bang => 19
  | .question => 20 | .colon => 21 | .plus => 22 | .star => 23 | .slash => 24 | .percent => 25
  | .kwTrue => 26 | .kwFalse => 27 | .kwNull => 28 | .float => 31 | .int => 32 | .uint => 33
  | .string => 34 | .bytes => 35 | .ident => 36 | .eof => 0

/-- The name of a kind in an expected-token set. -/
def display : Kind → String
  | .eq => "'=='" | .ne => "'!='" | .kwIn => "'in'" | .lt => "'<'" | .le => "'<='"
  | .ge => "'>='" | .gt => "'>'" | .and => "'&&'" | .or => "'||'" | .lbracket => "'['"
  | .rbracket => "']'" | .lbrace => "'\x7b'" | .rbrace => "'\x7d'" | .lparen => "'('"
  | .rparen => "')'" | .dot => "'.'" | .comma => "','" | .minus => "'-'" | .bang => "'!'"
  | .question => "'?'" | .colon => "':'" | .plus => "'+'" | .star => "'*'" | .slash => "'/'"
  | .percent => "'%'" | .kwTrue => "'true'" | .kwFalse => "'false'" | .kwNull => "'null'"
  | .float => "NUM_FLOAT" | .int => "NUM_INT" | .uint => "NUM_UINT" | .string => "STRING"
  | .bytes => "BYTES" | .ident => "IDENTIFIER" | .eof => "<EOF>"

end Kind

/-- A token: its kind, the code point offset where it starts, its source text, and for
literals their value read from the text. -/
structure Lexeme where
  kind : Kind
  start : Nat
  text : String
  chars : List Char := []
  octets : List Nat := []
  unreadable : Bool := false
deriving Repr, Inhabited

/-- A text that starts no token: where it starts and what was read. -/
structure Fault where
  start : Nat
  text : String
deriving Repr

/-- What the lexer reads at one position. -/
inductive Scan where
  | skip (n : Nat)
  | token (kind : Kind) (n : Nat) (chars : List Char) (octets : List Nat)
      (unreadable : Bool := false)
  | fault (n : Nat)

def isBlank (c : Char) : Bool := c = ' ' || c = '\t' || c = '\r' || c = '\n' || c.toNat = 12

def isLetter (c : Char) : Bool := ('a' ≤ c && c ≤ 'z') || ('A' ≤ c && c ≤ 'Z')

def isIdentChar (c : Char) : Bool := isLetter c || c.isDigit || c = '_'

def hexValue? (c : Char) : Option Nat :=
  if c.isDigit then some (c.toNat - 48)
  else if 'a' ≤ c && c ≤ 'f' then some (c.toNat - 87)
  else if 'A' ≤ c && c ≤ 'F' then some (c.toNat - 55)
  else none

def symbols : List (String × Kind) :=
  [("==", .eq), ("!=", .ne), ("<=", .le), (">=", .ge), ("&&", .and), ("||", .or),
    ("<", .lt), (">", .gt), ("[", .lbracket), ("]", .rbracket), ("\x7b", .lbrace),
    ("\x7d", .rbrace), ("(", .lparen), (")", .rparen), (".", .dot), (",", .comma),
    ("-", .minus), ("!", .bang), ("?", .question), (":", .colon), ("+", .plus), ("*", .star),
    ("/", .slash), ("%", .percent)]

def keyword? (s : String) : Option Kind :=
  if s = "true" then some .kwTrue
  else if s = "false" then some .kwFalse
  else if s = "null" then some .kwNull
  else if s = "in" then some .kwIn
  else none

def countWhile (p : Char → Bool) (cs : List Char) : Nat := (cs.takeWhile p).length

def exponentLength : List Char → Nat
  | e :: rest =>
    if e = 'e' || e = 'E' then
      match rest with
      | s :: ds =>
        if s = '+' || s = '-' then
          let n := countWhile Char.isDigit ds
          if n > 0 then n + 2 else 0
        else
          let n := countWhile Char.isDigit rest
          if n > 0 then n + 1 else 0
      | [] => 0
    else 0
  | [] => 0

def scanNumber (cs : List Char) : Scan :=
  match cs with
  | '0' :: x :: rest =>
    if x = 'x' then
      let n := countWhile (fun c => (hexValue? c).isSome) rest
      if n = 0 then .token .int 1 [] []
      else
        match rest.drop n with
        | u :: _ => if u = 'u' || u = 'U' then .token .uint (n + 3) [] [] else .token .int (n + 2) [] []
        | [] => .token .int (n + 2) [] []
    else scanDecimal cs
  | _ => scanDecimal cs
where
  scanDecimal (cs : List Char) : Scan :=
    let n := countWhile Char.isDigit cs
    let rest := cs.drop n
    match rest with
    | '.' :: d :: more =>
      if d.isDigit then
        let f := countWhile Char.isDigit (d :: more)
        .token .float (n + 1 + f + exponentLength ((d :: more).drop f)) [] []
      else .token .int n [] []
    | u :: _ =>
      if u = 'u' || u = 'U' then .token .uint (n + 1) [] []
      else
        let e := exponentLength rest
        if e > 0 then .token .float (n + e) [] [] else .token .int n [] []
    | [] => .token .int n [] []

/-- What a quoted literal reads: its characters or bytes, whether a Unicode escape was used and
whether one was beyond the last code point; or the number of characters up to and including
the one where it fails. -/
inductive Quoted where
  | closed (n : Nat) (pieces : List (Sum Char Nat)) (unicode beyond : Bool)
  | failed (n : Nat)

def codePoint (n : Nat) : Char :=
  if n.isValidChar then Char.ofNat n else Char.ofNat 0xFFFD

def hexNumber (ds : List Char) : Option Nat :=
  ds.foldl (fun acc d => do let a ← acc; let v ← hexValue? d; pure (a * 16 + v)) (some 0)

/-- An escape sequence after the backslash: the piece it stands for and its length, or the
number of characters read before the one that does not fit. -/
def escape (cs : List Char) : Except Nat (Sum Char Nat × Nat) :=
  match cs with
  | c :: rest =>
    if c = 'a' then .ok (.inl (Char.ofNat 7), 1)
    else if c = 'b' then .ok (.inl (Char.ofNat 8), 1)
    else if c = 'f' then .ok (.inl (Char.ofNat 12), 1)
    else if c = 'n' then .ok (.inl '\n', 1)
    else if c = 'r' then .ok (.inl '\r', 1)
    else if c = 't' then .ok (.inl '\t', 1)
    else if c = 'v' then .ok (.inl (Char.ofNat 11), 1)
    else if c = '"' || c = '\'' || c = '\\' || c = '?' || c.toNat = 96 then .ok (.inl c, 1)
    else if c = 'x' || c = 'X' || c = 'u' || c = 'U' then
      let width := if c = 'u' then 4 else if c = 'U' then 8 else 2
      let ds := rest.take width
      let good := countWhile (fun d => (hexValue? d).isSome) ds
      if good < width then .error (1 + good)
      else
        let v := (hexNumber ds).getD 0
        if c = 'x' || c = 'X' then .ok (.inr v, 3) else .ok (.inr v, width + 1)
    else if '0' ≤ c && c ≤ '3' then
      match rest with
      | a :: b :: _ =>
        if '0' ≤ a && a ≤ '7' then
          if '0' ≤ b && b ≤ '7' then
            .ok (.inr ((c.toNat - 48) * 64 + (a.toNat - 48) * 8 + (b.toNat - 48)), 3)
          else .error 2
        else .error 1
      | [a] => if '0' ≤ a && a ≤ '7' then .error 2 else .error 1
      | [] => .error 1
    else .error 0
  | [] => .error 0

def quotedBody (q : Char) (triple raw : Bool) (read : Nat) (acc : List (Sum Char Nat))
    (unicode beyond : Bool) : List Char → Quoted
  | [] => .failed read
  | c :: rest =>
    if c = q && (!triple || rest.take 2 = [q, q]) then
      .closed (read + (if triple then 3 else 1)) acc.reverse unicode beyond
    else if !triple && (c = '\n' || c = '\r') then .failed (read + 1)
    else if c = '\\' && !raw then
      match escape rest with
      | .error k => .failed (read + 2 + k)
      | .ok (piece, k) =>
        let wide := rest.head? = some 'u' || rest.head? = some 'U'
        let tooHigh := match piece with | .inr v => v > 0x10FFFF | .inl _ => false
        quotedBody q triple raw (read + 1 + k) (piece :: acc) (unicode || wide) (beyond || tooHigh)
          (rest.drop k)
    else quotedBody q triple raw (read + 1) (.inl c :: acc) unicode beyond rest
termination_by cs => cs.length
decreasing_by
  all_goals
    simp only [List.length_drop, List.length_cons]
    omega

def openQuote : List Char → Option (Char × Bool)
  | q :: rest =>
    if q = '"' || q = '\'' then some (q, rest.take 2 = [q, q]) else none
  | [] => none

def scanQuoted (cs : List Char) (prefixLen : Nat) (raw bytes : Bool) (fallback : Option Scan) :
    Scan :=
  match openQuote (cs.drop prefixLen) with
  | none => fallback.getD (.fault 1)
  | some (q, triple) =>
    let skip := prefixLen + (if triple then 3 else 1)
    match quotedBody q triple raw 0 [] false false (cs.drop skip) with
    | .closed n pieces unicode beyond =>
      let chars := pieces.map fun p => match p with | .inl c => c | .inr b => codePoint b
      let octets := pieces.flatMap fun p => match p with
        | .inl c => (String.singleton c).toUTF8.toList.map (·.toNat)
        | .inr b => [b]
      .token (if bytes then .bytes else .string) (skip + n) chars octets
        (if bytes then unicode else beyond)
    | .failed n =>
      match fallback with
      | some s => s
      | none => .fault (min (skip + n) cs.length)

def scanWord (cs : List Char) : Scan :=
  let n := countWhile isIdentChar cs
  let word := String.ofList (cs.take n)
  let plain : Scan := .token ((keyword? word).getD .ident) n [] []
  let lower := word.toList.map fun c => if 'A' ≤ c && c ≤ 'Z' then Char.ofNat (c.toNat + 32) else c
  if lower = ['r'] then scanQuoted cs 1 true false (some plain)
  else if lower = ['b'] then scanQuoted cs 1 false true (some plain)
  else if lower = ['b', 'r'] then scanQuoted cs 2 true true (some plain)
  else plain

/-- What the lexer reads at the head of a non-empty text. -/
def scan (cs : List Char) : Scan :=
  match cs with
  | [] => .skip 1
  | c :: rest =>
    if isBlank c then .skip (countWhile isBlank cs)
    else if c = '/' && rest.head? = some '/' then .skip (countWhile (· ≠ '\n') cs)
    else if c.isDigit then scanNumber cs
    else if c = '.' && (rest.head?.map Char.isDigit).getD false then
      let f := countWhile Char.isDigit rest
      .token .float (1 + f + exponentLength (rest.drop f)) [] []
    else if isLetter c || c = '_' then scanWord cs
    else if c = '"' || c = '\'' then scanQuoted cs 0 false false none
    else
      match symbols.find? (fun (s, _) => s.toList.isPrefixOf cs) with
      | some (s, k) => .token k s.length [] []
      | none =>
        -- a symbol whose first character matches but whose second does not
        if c = '=' || c = '&' || c = '|' then .fault (min 2 cs.length) else .fault 1

def lexFrom (pos : Nat) (toks : List Lexeme) (faults : List Fault) :
    List Char → List Lexeme × List Fault
  | [] => ((⟨.eof, pos, "<EOF>", [], [], false⟩ :: toks).reverse, faults.reverse)
  | c :: rest =>
    let cs := c :: rest
    let (n, tok, fault) : Nat × Option Lexeme × Option Fault :=
      match scan cs with
      | .skip n => (n, none, none)
      | .token k n chars octets unreadable =>
        (n, some ⟨k, pos, String.ofList (cs.take n), chars, octets, unreadable⟩, none)
      | .fault n => (n, none, some ⟨pos, String.ofList (cs.take n)⟩)
    let n := max n 1
    have : n ≥ 1 := by omega
    lexFrom (pos + n) (match tok with | some t => t :: toks | none => toks)
      (match fault with | some f => f :: faults | none => faults) (cs.drop n)
termination_by cs => cs.length
decreasing_by simp only [List.length_drop, List.length_cons]; omega

/-- The tokens of a text, ending with the end marker, and the faults met on the way. -/
def lex (s : String) : List Lexeme × List Fault := lexFrom 0 [] [] s.toList

end MessageTemplate.Condition
