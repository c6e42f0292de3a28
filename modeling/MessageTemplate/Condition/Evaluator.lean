import MessageTemplate.Condition.Lexer
import MessageTemplate.Condition.Parse
import MessageTemplate.Condition.Check
import MessageTemplate.Condition.Eval
/-! Conditions end to end: lexed, parsed, checked and evaluated, with their diagnostics shown. -/
namespace MessageTemplate.Condition

def lineColumn (src : List Char) (pos : Nat) : Nat × Nat :=
  let before := src.take pos
  let line := before.count '\n' + 1
  let col := (before.reverse.takeWhile (· ≠ '\n')).length
  (line, col)

def sourceLine (src : List Char) (line : Nat) : List Char :=
  let rec go : Nat → List Char → List Char
    | _, [] => []
    | 0, cs => cs.takeWhile (· ≠ '\n')
    | n + 1, cs => go n ((cs.dropWhile (· ≠ '\n')).drop 1)
  go (line - 1) src

/-- One diagnostic as it is shown under the source. -/
def Diagnostic.display (src : List Char) (d : Diagnostic) : String :=
  let (line, col) := lineColumn src d.pos
  let snippet := (sourceLine src line).map fun c => if c = '\t' then ' ' else c
  let wide (c : Char) : Bool := c.toNat ≥ 0x80
  let dots := (snippet.take col).map fun c => if wide c then Char.ofNat 0xFF0E else '.'
  let caret := match snippet.drop col with
    | c :: _ => if wide c then Char.ofNat 0xFF3E else '^'
    | [] => '^'
  "ERROR: <input>:" ++ toString line ++ ":" ++ toString (col + 1) ++ ": " ++ d.message ++
    "\n | " ++ String.ofList snippet ++ "\n | " ++ String.ofList dots ++ String.singleton caret

def maxShown : Nat := 100

def issuesText (src : String) (issues : Issues) : String :=
  let cs := src.toList
  let all := issues.placed.map (fun d => (some d.pos, d)) ++
    issues.general.map (fun m => ((none : Option Nat), (⟨0, m⟩ : Diagnostic)))
  let kept := (all.take maxShown).mergeSort fun a b => match a.1, b.1 with
    | none, _ => true
    | some _, none => false
    | some p, some q => decide (p ≤ q)
  let lines := kept.map fun (pos, d) => match pos with
    | some _ => d.display cs
    | none => "ERROR: <input>:-1:0: " ++ d.message
  let more := all.length - maxShown
  "\n".intercalate (lines ++
    (if more > 0 then [toString more ++ " more errors were truncated"] else []))

/-- The syntax tree and type of a condition, or its diagnostics shown. -/
def compile (src : String) : Except String (Expr × CelType) :=
  let (tokens, faults) := lex src
  match parseTokens src tokens faults with
  | .error issues => .error (issuesText src issues)
  | .ok e =>
    let e := resolveNames e
    let (t, errors) := check e
    if errors.isEmpty then .ok (e, t) else .error (issuesText src ⟨errors, []⟩)

def evalFuel : Nat := 100000

/-- The value of a condition with variables. -/
def evaluate (src : String) (act : Activation) : Except String CelVal :=
  match compile src with
  | .error issues => .error ("failed to compile expression: parse error: " ++ issues)
  | .ok (e, _) =>
    match undefinedType? e with
    | some n =>
      .error ("failed to compile expression: program generation error: " ++
        "reference to undefined type: " ++ n)
    | none =>
      match eval evalFuel act [] e with
      | .ok v => .ok v
      | .error m => .error ("evaluation failed: " ++ m)

/-- The truth value of a condition with variables, its value found by `value` (the evaluation
above unless another is given): a value other than a truth value is refused. -/
def evaluateBool (src : String) (act : Activation)
    (value : String → Activation → Except String CelVal := evaluate) : Except String Bool :=
  match value src act with
  | .error m => .error m
  | .ok (.bool b) => .ok b
  | .ok v => .error ("condition " ++ Text.quote src ++ " returned " ++ v.hostTypeName ++ ", want bool")

/-- Check that a condition compiles to a truth value or a dynamic value. -/
def validate (src : String) : Except String Unit :=
  match compile src with
  | .error issues => .error issues
  | .ok (_, t) =>
    if t = .bool || t = .dyn then .ok ()
    else .error ("expression " ++ Text.quote src ++ " has type " ++ t.name ++ ", want bool")

end MessageTemplate.Condition
