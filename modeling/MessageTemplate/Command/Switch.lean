import MessageTemplate.Numeric.Parse
/-! Command lines made of switches (`--name`, `--name=value`, `-x`) and operands. -/
namespace MessageTemplate.Command

/-- A switch a command accepts: its name, its letter if it has one, and what it does. -/
structure Switch where
  name : String
  letter : Option Char
  usage : String

namespace Switch

/-- How messages name a switch: by letter and name, or by name alone. -/
def label (s : Switch) : String :=
  match s.letter with
  | some c => "-" ++ c.toString ++ ", --" ++ s.name
  | none => "--" ++ s.name

def heading (s : Switch) : String :=
  match s.letter with
  | some _ => "  " ++ s.label
  | none => "      " ++ s.label

end Switch

/-- Why a command line cannot be read. -/
inductive LineError where
  | unknownName (name : String)
  | unknownLetter (c : Char) (letters : String)
  | badSyntax (arg : String)
  | invalidValue (value label : String)
  | tooFewOperands (needed received : Nat)
deriving DecidableEq, Repr

/-- The message of a command-line error. -/
def LineError.message : LineError → String
  | .unknownName n => "unknown flag: --" ++ n
  | .unknownLetter c ls => "unknown shorthand flag: " ++ Text.quoteLeadByte c ++ " in -" ++ ls
  | .badSyntax a => "bad flag syntax: " ++ a
  | .invalidValue v l =>
    "invalid argument " ++ Text.quote v ++ " for " ++ Text.quote l ++ " flag: " ++
      Numeric.ReadError.malformed.message "strconv.ParseBool" v
  | .tooFewOperands n k =>
    "requires at least " ++ toString n ++ " arg(s), only received " ++ toString k

/-- A command line read: each switch setting in the order written, and the operands. -/
structure Line where
  settings : List (String × Bool)
  operands : List String

def Line.isOn (l : Line) (name : String) : Bool :=
  ((l.settings.reverse.find? (·.1 = name)).map (·.2)).getD false

def setting (s : Switch) (value : String) : Except LineError (String × Bool) :=
  match Numeric.readBool value with
  | .ok b => .ok (s.name, b)
  | .error _ => .error (.invalidValue value s.label)

def readLetters (switches : List Switch) : List Char → Except LineError (List (String × Bool))
  | [] => .ok []
  | c :: rest =>
    match switches.find? (·.letter = some c) with
    | none => .error (.unknownLetter c (String.ofList (c :: rest)))
    | some s =>
      match rest with
      | '=' :: v@(_ :: _) => do
        let b ← setting s (String.ofList v)
        pure [b]
      | _ => do
        let more ← readLetters switches rest
        pure ((s.name, true) :: more)

def readNamed (switches : List Switch) (arg : String) (body : List Char) :
    Except LineError (String × Bool) :=
  match body with
  | '-' :: _ | '=' :: _ => .error (.badSyntax arg)
  | _ =>
    let name := String.ofList (body.takeWhile (· ≠ '='))
    match switches.find? (·.name = name) with
    | none => .error (.unknownName name)
    | some s =>
      match body.dropWhile (· ≠ '=') with
      | _ :: v => setting s (String.ofList v)
      | [] => .ok (s.name, true)

def readLine (switches : List Switch) : List String → Except LineError Line
  | [] => .ok ⟨[], []⟩
  | a :: rest =>
    match a.toList with
    | ['-', '-'] => .ok ⟨[], rest⟩
    | '-' :: '-' :: body => do
      let s ← readNamed switches a body
      let l ← readLine switches rest
      pure ⟨s :: l.settings, l.operands⟩
    | '-' :: letters@(_ :: _) => do
      let ss ← readLetters switches letters
      let l ← readLine switches rest
      pure ⟨ss ++ l.settings, l.operands⟩
    | _ => do
      let l ← readLine switches rest
      pure ⟨l.settings, a :: l.operands⟩

def usageTable (switches : List Switch) : String :=
  let width := (switches.map (·.heading.length)).foldl max 0 + 1
  String.join (switches.map fun s =>
    s.heading ++ " " ++ String.ofList (List.replicate (width - s.heading.length) ' ') ++ " " ++
      s.usage ++ "\n")

end MessageTemplate.Command
