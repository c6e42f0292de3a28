import MessageTemplate.Unicode.Ranges
/-! The syntax of regular expressions in the RE2 dialect. -/
namespace MessageTemplate.Regex

/-- The modes that change how the rest of an expression reads. -/
structure Flags where
  foldCase : Bool := false
  dotAll : Bool := false
  multiLine : Bool := false
  ungreedy : Bool := false
deriving DecidableEq, Repr, Inhabited

/-- A position test that matches no character. -/
inductive Anchor where
  | beginText
  | endText
  | beginLine
  | endLine
  | wordBoundary
  | notWordBoundary
deriving DecidableEq, Repr, Inhabited

/-- A regular expression. -/
inductive Re where
  | empty
  | literal (c : Nat) (fold : Bool)
  | set (s : Unicode.CodeSet)
  | anyChar
  | anyButNewline
  | anchor (a : Anchor)
  | group (r : Re)
  | seq (items : List Re)
  | alt (options : List Re)
  | star (r : Re)
  | plus (r : Re)
  | quest (r : Re)
  | rep (r : Re) (min : Nat) (max : Option Nat)
deriving Inhabited

/-- The kinds of syntax errors. -/
inductive ErrorCode where
  | invalidCharRange
  | invalidEscape
  | invalidNamedCapture
  | invalidPerlOp
  | invalidRepeatOp
  | invalidRepeatSize
  | missingBracket
  | missingParen
  | missingRepeatArgument
  | trailingBackslash
  | unexpectedParen
  | nestingDepth
deriving DecidableEq, Repr

/-- The description of a kind of syntax error. -/
def ErrorCode.text : ErrorCode → String
  | .invalidCharRange => "invalid character class range"
  | .invalidEscape => "invalid escape sequence"
  | .invalidNamedCapture => "invalid named capture"
  | .invalidPerlOp => "invalid or unsupported Perl syntax"
  | .invalidRepeatOp => "invalid nested repetition operator"
  | .invalidRepeatSize => "invalid repeat count"
  | .missingBracket => "missing closing ]"
  | .missingParen => "missing closing )"
  | .missingRepeatArgument => "missing argument to repetition operator"
  | .trailingBackslash => "trailing backslash at end of expression"
  | .unexpectedParen => "unexpected )"
  | .nestingDepth => "expression nests too deeply"

/-- A syntax error: its kind and the part of the expression it concerns. -/
structure ParseError where
  code : ErrorCode
  text : String
deriving Repr

/-- The message of a syntax error, the part it concerns between backquotes. -/
def ParseError.message (e : ParseError) : String :=
  let quote := String.singleton (Char.ofNat 96)
  "error parsing regexp: " ++ e.code.text ++ ": " ++ quote ++ e.text ++ quote

def maxHeight : Nat := 1000

def maxRepeat : Nat := 1000

def partCount : List Re → Nat
  | .literal _ f :: .literal c g :: rest =>
    if f = g then partCount (.literal c g :: rest) else 1 + partCount (.literal c g :: rest)
  | _ :: rest => 1 + partCount rest
  | [] => 0
termination_by rs => rs.length

mutual
def Re.height : Re → Nat
  | .group r | .star r | .plus r | .quest r | .rep r _ _ => r.height + 1
  | .seq items =>
    match partCount items with
    | 0 => 1
    | 1 => listHeight items
    | _ => listHeight items + 1
  | .alt options => if options.length = 1 then listHeight options else listHeight options + 1
  | _ => 1

def listHeight : List Re → Nat
  | [] => 0
  | r :: rs => max r.height (listHeight rs)
end

mutual
def Re.repeatsFit (n : Nat) : Re → Bool
  | .rep r lo hi =>
    match hi with
    | some 0 => true
    | _ =>
      let m := hi.getD lo
      if m > n then false else r.repeatsFit (if m > 0 then n / m else n)
  | .group r | .star r | .plus r | .quest r => r.repeatsFit n
  | .seq rs | .alt rs => allFit n rs
  | _ => true

def allFit (n : Nat) : List Re → Bool
  | [] => true
  | r :: rs => r.repeatsFit n && allFit n rs
end

end MessageTemplate.Regex
