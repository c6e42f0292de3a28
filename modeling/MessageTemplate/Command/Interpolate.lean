import MessageTemplate.Command.Switch
import MessageTemplate.Template.Pairs
import MessageTemplate.Service.Request
/-! The `interpolate` command: a named template from the command line rendered with the values
that follow it, or its names (`--names`) or pairs (`--pairs`) listed. -/
namespace MessageTemplate.Command

/-- What a run of a command printed, and the error it stopped with, if any. -/
structure Run where
  output : String
  error : Option String
deriving DecidableEq, Repr

/-- A run that stopped with an error after printing some text. -/
def Run.failed (output error : String) : Run := ⟨output, some error⟩

/-- What the command's process leaves: its standard output and error texts, and its exit
code, `1` after an error. -/
structure Exit where
  stdout : String
  stderr : String
  code : UInt32
deriving DecidableEq, Repr

def Run.exit (r : Run) : Exit :=
  match r.error with
  | none => ⟨r.output, "", 0⟩
  | some e => ⟨r.output, "Error: " ++ e ++ "\n", 1⟩

/-- Why a value argument cannot be read as JSON; values are counted from 1. -/
inductive ValueError where
  | invalid (index : Nat) (cause : Json.SyntaxError)
  | trailing (index : Nat)
deriving DecidableEq, Repr

/-- The message of a value error. -/
def ValueError.message : ValueError → String
  | .invalid i e => "value " ++ toString i ++ " is not valid JSON: " ++ e.message
  | .trailing i => "value " ++ toString i ++ " has trailing content after the JSON value"

def readValue (asJson : Bool) (index : Nat) (arg : String) : Except ValueError Value :=
  if asJson then
    match Json.readPrefix arg.toList with
    | .error e => .error (.invalid index e)
    | .ok (j, rest) => if Json.restIsBlank rest then .ok (Value.ofJson j) else .error (.trailing index)
  else .ok (.str arg)

def readValues (asJson : Bool) : Nat → List String → Except ValueError (List Value)
  | _, [] => .ok []
  | index, a :: as => do
    let v ← readValue asJson index a
    let vs ← readValues asJson (index + 1) as
    pure (v :: vs)

def pairLines (t : Template) (values : List Value) : List Nat → String → Run
  | [], out => ⟨out, none⟩
  | i :: is, out =>
    match t.pair values i with
    | .error e => .failed out ("value for " ++ Text.quote (t.names.getD i "") ++ ": " ++ e.message)
    | .ok p => pairLines t values is (out ++ p.name ++ "=" ++ p.value.coerce.display ++ "\n")

/-- What the command prints. -/
inductive Report where
  | rendered
  | pairs
  | names
deriving DecidableEq, Repr

def interpolate (asJson : Bool) (report : Report) (raw : String) (args : List String) : Run :=
  match readValues asJson 1 args with
  | .error e => .failed "" e.message
  | .ok values =>
    let t := Template.compile raw
    match report with
    | .names => ⟨String.join (t.names.map (· ++ "\n")), none⟩
    | .pairs => pairLines t values (List.range t.len) ""
    | .rendered =>
      match t.render values with
      | .ok s => ⟨s ++ "\n", none⟩
      | .error e => .failed "" ("failed to render: " ++ e.message)

def switches : List Switch :=
  [⟨"help", some 'h', "help for interpolate"⟩,
   ⟨"json", none, "parse each VALUE as JSON"⟩,
   ⟨"names", none, "print the distinct placeholder names"⟩,
   ⟨"pairs", none, "print name=value pairs instead of the rendered text"⟩,
   ⟨"verbose", some 'v', "log compilation details to stderr"⟩]

def helpText : String :=
  "Render TEMPLATE, replacing each distinct \x7bName\x7d placeholder with the\n" ++
  "VALUE at the same position. Placeholders accept alignment and format\n" ++
  "suffixes: \x7bName,-10\x7d, \x7bTotal:N2\x7d, \x7bId,8:X\x7d. Write literal braces doubled.\n\n" ++
  "Usage:\n  interpolate [flags] TEMPLATE [VALUE...]\n\n" ++
  "Examples:\n" ++
  "  interpolate \"Hello \x7bName\x7d, you have \x7bCount\x7d items\" World 3\n" ++
  "  interpolate --json \"\x7bTags\x7d / \x7bMissing\x7d\" '[\"a\",\"b\"]' null\n" ++
  "  interpolate --pairs \"\x7bUser\x7d from \x7bAddr\x7d\" ann 10.0.0.1\n\n" ++
  "Flags:\n" ++ usageTable switches

def execute (args : List String) : Run :=
  match readLine switches args with
  | .error e => .failed "" e.message
  | .ok line =>
    if line.isOn "help" then ⟨helpText, none⟩
    else
      let report := if line.isOn "names" then Report.names
        else if line.isOn "pairs" then .pairs else .rendered
      match line.operands with
      | [] => .failed "" (LineError.tooFewOperands 1 0).message
      | raw :: values => interpolate (line.isOn "json") report raw values

end MessageTemplate.Command
