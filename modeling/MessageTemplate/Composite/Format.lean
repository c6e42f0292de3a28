import MessageTemplate.Numeric.Standard
import MessageTemplate.Text.Quote
/-! Composite formatting: items `{index[,alignment][:format]}` replaced by their arguments,
formatted and padded; `{{` and `}}` stand for single braces. -/
namespace MessageTemplate.Composite

/-- Why a composite format failed. -/
inductive Error where
  | unexpectedClose (offset : Nat)
  | missingIndex
  | indexTooLarge
  | invalidAlignment
  | alignmentTooLarge
  | unterminated
  | openInFormat
  | unexpectedChar (c : Char)
  | indexOutOfRange (index count : Nat)
  | item (index : Nat) (cause : Standard.SpecError)
deriving DecidableEq, Repr

/-- The message of a composite format error. -/
def Error.message : Error → String
  | .unexpectedClose o => "unexpected '\x7d' at offset " ++ toString o ++ ": " ++ Standard.formatErrorText
  | .missingIndex => "format item must start with an index: " ++ Standard.formatErrorText
  | .indexTooLarge => "index too large: " ++ Standard.formatErrorText
  | .invalidAlignment => "invalid alignment: " ++ Standard.formatErrorText
  | .alignmentTooLarge => "alignment too large: " ++ Standard.formatErrorText
  | .unterminated => "unterminated format item: " ++ Standard.formatErrorText
  | .openInFormat => "unexpected '\x7b' in format string: " ++ Standard.formatErrorText
  | .unexpectedChar c =>
    "unexpected " ++ Text.quoteLeadByte c ++ " in format item: " ++ Standard.formatErrorText
  | .indexOutOfRange i n =>
    "index " ++ toString i ++ " must be less than the size of the argument list (" ++ toString n ++
      "): " ++ Standard.formatErrorText
  | .item i cause => "item \x7b" ++ toString i ++ "\x7d: " ++ cause.message

def Error.isFormatError : Error → Bool
  | .item _ cause => cause.isFormatError
  | _ => true

/-- Indices and alignments stay below this bound. -/
def limit : Nat := 1000000

/-- An item: the argument's index, the alignment and the format. -/
structure Item where
  index : Nat
  alignment : Int
  spec : String
deriving DecidableEq, Repr

def skipSpaces (cs : List Char) : List Char × Nat :=
  (cs.dropWhile (· = ' '), (cs.takeWhile (· = ' ')).length)

def readBounded : List Char → Nat → Nat → Option (Nat × List Char × Nat)
  | [], acc, n => some (acc, [], n)
  | c :: cs, acc, n =>
    if c.isDigit then
      let v := acc * 10 + (c.toNat - 48)
      if v ≥ limit then none else readBounded cs v (n + 1)
    else some (acc, c :: cs, n)

def readSpec : List Char → List Char → Nat → Except Error (String × List Char × Nat)
  | [], _, _ => .error .unterminated
  | '}' :: '}' :: rest, acc, n => readSpec rest ('}' :: acc) (n + 2)
  | '}' :: rest, acc, n => .ok (String.ofList acc.reverse, '}' :: rest, n)
  | '{' :: '{' :: rest, acc, n => readSpec rest ('{' :: acc) (n + 2)
  | '{' :: _, _, _ => .error .openInFormat
  | c :: rest, acc, n => readSpec rest (c :: acc) (n + 1)

def readSign : List Char → Bool × List Char × Nat
  | '-' :: r => (true, r, 1)
  | r => (false, r, 0)

def readAlignment : List Char → Except Error (Int × List Char × Nat)
  | ',' :: afterComma =>
    let (r3, s3) := skipSpaces afterComma
    let (neg, r4, s4) := readSign r3
    match r4 with
    | d :: _ =>
      if !d.isDigit then .error .invalidAlignment
      else
        match readBounded r4 0 0 with
        | none => .error .alignmentTooLarge
        | some (w, r5, n5) =>
          let (r6, s6) := skipSpaces r5
          .ok (if neg then -(w : Int) else w, r6, 1 + s3 + s4 + n5 + s6)
    | [] => .error .invalidAlignment
  | r2 => .ok (0, r2, 0)

def readItem (cs : List Char) : Except Error (Item × Nat) :=
  match cs with
  | c :: _ =>
    if !c.isDigit then .error .missingIndex
    else
      match readBounded cs 0 0 with
      | none => .error .indexTooLarge
      | some (index, r1, n1) =>
        let (r2, s2) := skipSpaces r1
        match readAlignment r2 with
        | .error e => .error e
        | .ok (align, r7, n7) =>
          let used := n1 + s2 + n7
          match r7 with
          | [] => .error .unterminated
          | ':' :: afterColon =>
            match readSpec afterColon [] 0 with
            | .error e => .error e
            | .ok (spec, r8, n8) =>
              match r8 with
              | '}' :: _ => .ok (⟨index, align, spec⟩, used + 1 + n8 + 1)
              | d :: _ => .error (.unexpectedChar d)
              | [] => .error .unterminated
          | '}' :: _ => .ok (⟨index, align, ""⟩, used + 1)
          | d :: _ => .error (.unexpectedChar d)
  | [] => .error .missingIndex

/-- Text padded with spaces to `|alignment|` characters: on the left for a positive alignment,
on the right for a negative one. -/
def pad (text : String) (alignment : Int) : String :=
  let gap := alignment.natAbs - text.length
  let spaces := String.ofList (List.replicate gap ' ')
  if gap = 0 then text else if alignment > 0 then spaces ++ text else text ++ spaces

def byteCount (cs : List Char) : Nat := (cs.map Text.byteWidth).foldl (· + ·) 0

section
variable {α : Type} (args : List α) (formatArg : α → String → Except Standard.SpecError String)

def formatFrom (out : String) (offset : Nat) : List Char → Except Error String
  | [] => .ok out
  | '}' :: '}' :: rest => formatFrom (out.push '}') (offset + 2) rest
  | '}' :: _ => .error (.unexpectedClose offset)
  | '{' :: '{' :: rest => formatFrom (out.push '{') (offset + 2) rest
  | '{' :: rest =>
    match readItem rest with
    | .error e => .error e
    | .ok (it, used) =>
      match args[it.index]? with
      | none => .error (.indexOutOfRange it.index args.length)
      | some a =>
        match formatArg a it.spec with
        | .error e => .error (.item it.index e)
        | .ok text =>
          formatFrom (out ++ pad text it.alignment) (offset + 1 + byteCount (rest.take used))
            (rest.drop used)
  | c :: rest => formatFrom (out.push c) (offset + Text.byteWidth c) rest
termination_by cs => cs.length
decreasing_by
  all_goals
    simp only [List.length_drop, List.length_cons]
    omega

/-- Format a text with arguments. -/
def format (text : String) : Except Error String := formatFrom args formatArg "" 0 text.toList

end

end MessageTemplate.Composite
