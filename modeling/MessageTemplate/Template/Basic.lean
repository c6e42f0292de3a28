/-! Named templates and their compilation to positional form. -/
namespace MessageTemplate

/-- A compiled template: the text it was written as, its positional form and the distinct
placeholder names in order of first occurrence. -/
structure Template where
  original : String
  positional : String
  names : List String
deriving DecidableEq, Repr, Inhabited

/-- The key under which the written template is paired. -/
def originalFormatKey : String := "\x7bOriginalFormat\x7d"

/-- The text that stands for a missing or empty value. -/
def nullText : String := "(null)"

namespace Template

/-- Scan for the first run of `brace` that has odd length or reaches the end, from position
`i`, inside a run of `count` braces that began at `start`. -/
def findRunFrom (brace : Char) : List Char → Nat → Nat → Nat → Option (Nat × Nat)
  | [], _, start, count => if count > 0 then some (start, count) else none
  | c :: rest, i, start, count =>
    if c = brace then findRunFrom brace rest (i + 1) (if count = 0 then i else start) (count + 1)
    else if count = 0 then findRunFrom brace rest (i + 1) start 0
    else if count % 2 = 1 then some (start, count)
    else findRunFrom brace rest (i + 1) start 0

/-- The first run of `brace` in a text that has odd length or reaches the end: its start and
its length. -/
def findRun (brace : Char) (cs : List Char) : Option (Nat × Nat) := findRunFrom brace cs 0 0 0

/-- Whether a character ends a placeholder's name. -/
def isNameEnd (c : Char) : Bool := c = ',' || c = ':'

/-- The position of a name among the names so far, adding it at the end when new. -/
def indexOf (names : List String) (name : String) : Nat × List String :=
  match names.idxOf? name with
  | some i => (i, names)
  | none => (names.length, names ++ [name])

/-- Compile the rest of a template after the output and names so far. -/
def compileFrom : List Char → List Char → List String → List Char × List String
  | [], out, names => (out, names)
  | c :: rest, out, names =>
    match findRun '{' (c :: rest) with
    | none => (out ++ c :: rest, names)
    | some (start, len) =>
      let openAt := start + len - 1
      let afterOpen := (c :: rest).drop (openAt + 1)
      match findRun '}' afterOpen with
      | none => (out ++ c :: rest, names)
      | some (closeAt, _) =>
        let body := afterOpen.take closeAt
        let name := String.ofList (body.takeWhile fun ch => !isNameEnd ch)
        let suffix := body.dropWhile fun ch => !isNameEnd ch
        let (i, names') := indexOf names name
        compileFrom (afterOpen.drop (closeAt + 1))
          (out ++ (c :: rest).take (openAt + 1) ++ (toString i).toList ++ suffix ++ ['}']) names'
termination_by cs => cs.length
decreasing_by
  all_goals
    simp only [List.length_drop, List.length_cons]
    omega

end Template

/-- Compile a named template. -/
def Template.compile (raw : String) : Template :=
  let (out, names) := Template.compileFrom raw.toList [] []
  ⟨raw, String.ofList out, names⟩

end MessageTemplate
