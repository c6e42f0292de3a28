import MessageTemplate.Condition.Lexer
import MessageTemplate.Condition.Syntax
import MessageTemplate.Numeric.Parse
/-! The parse tree of a condition and the expression it stands for. -/
namespace MessageTemplate.Condition

/-- A diagnostic: the code point offset it is reported at and its message. -/
structure Diagnostic where
  pos : Nat
  message : String
deriving Repr, Inhabited

/-- The parse tree of a condition. -/
inductive Tree where
  | broken
  | ternary (cond : Tree) (question : Lexeme) (yes no : Option Tree)
  | logical (isOr : Bool) (first : Tree) (rest : List (Lexeme × Tree))
  | binary (op : Lexeme) (lhs rhs : Tree)
  | prefixed (negate : Bool) (ops : List Lexeme) (operand : Option Tree)
  | select (operand : Tree) (dot : Lexeme) (opt name : Option Lexeme)
  | memberCall (operand : Tree) (dot : Lexeme) (name paren : Option Lexeme)
      (args : List Tree)
  | index (operand : Tree) (bracket : Lexeme) (opt : Option Lexeme) (index : Option Tree)
  | ident (dot name : Option Lexeme) (call : Option (Lexeme × List Tree))
  | list (bracket : Lexeme) (elems : List (Option Lexeme × Option Tree))
  | map (brace : Lexeme) (keys : List (Option Lexeme × Option Tree)) (colons : List Lexeme)
      (values : List Tree)
  | message (dot : Option Lexeme) (names : List Lexeme) (brace : Option Lexeme)
      (fields : List (Option Lexeme × Option Lexeme)) (colons : List Lexeme) (values : List Tree)
  | literal (sign : Option Lexeme) (token : Lexeme)
deriving Inhabited

def intLiteral (neg : Bool) (text : String) : Option Int :=
  let cs := text.toList
  let (base, ds) := match cs with
    | '0' :: x :: rest => if x = 'x' || x = 'X' then (16, rest) else (10, cs)
    | _ => (10, cs)
  let v := ds.foldl (fun acc d => acc * base + (hexValue? d).getD 0) 0
  let z : Int := if neg then -(v : Int) else v
  if z < -(Int.pow 2 63) || z ≥ Int.pow 2 63 then none else some z

def uintLiteral (text : String) : Option Nat :=
  let cs := text.toList.dropLast
  let (base, ds) := match cs with
    | '0' :: x :: rest => if x = 'x' || x = 'X' then (16, rest) else (10, cs)
    | _ => (10, cs)
  let v := ds.foldl (fun acc d => acc * base + (hexValue? d).getD 0) 0
  if v ≥ Nat.pow 2 64 then none else some v

def literalOf (neg : Bool) (t : Lexeme) : Except String Literal :=
  match t.kind with
  | .int =>
    match intLiteral neg t.text with
    | some v => .ok (.int v)
    | none => .error "invalid int literal"
  | .uint =>
    match uintLiteral t.text with
    | some v => .ok (.uint v)
    | none => .error "invalid uint literal"
  | .float =>
    match Numeric.readFloat FloatFormat.double ((if neg then "-" else "") ++ t.text) with
    | .ok x => .ok (.double x)
    | .error _ => .error "invalid double literal"
  | .string | .bytes =>
    if t.unreadable then .error "unable to unescape string"
    else if t.kind = .string then .ok (.string (String.ofList t.chars))
    else .ok (.bytes t.octets)
  | .kwTrue => .ok (.bool true)
  | .kwFalse => .ok (.bool false)
  | _ => .ok .null

def balance (fn : String) (terms : List Expr) (ops : List Nat) (fuel : Nat) : Expr :=
  match fuel with
  | 0 => terms.headD default
  | fuel + 1 =>
    match terms with
    | [] => default
    | [t] => t
    | _ =>
      let mid := terms.length / 2
      let left := balance fn (terms.take mid) (ops.take (mid - 1)) fuel
      let right := balance fn (terms.drop mid) (ops.drop mid) fuel
      .call (ops.getD (mid - 1) 0) fn [left, right]

def binaryName : Kind → Option String
  | .eq => some "_==_" | .ne => some "_!=_" | .lt => some "_<_" | .le => some "_<=_"
  | .gt => some "_>_" | .ge => some "_>=_" | .kwIn => some "@in"
  | .plus => some "_+_" | .minus => some "_-_"
  | .star => some "_*_" | .slash => some "_/_" | .percent => some "_%_"
  | _ => none

def macroOf (name : String) (arity : Nat) : Option Macro :=
  if name = "all" && arity = 2 then some .all
  else if name = "exists" && arity = 2 then some .any
  else if name = "exists_one" && arity = 2 then some .one
  else if name = "map" && (arity = 2 || arity = 3) then some .map
  else if name = "filter" && arity = 2 then some .filter
  else none

def methodOrMacro (pos : Nat) (name : String) (target : Expr) (args : List Expr) :
    Except Diagnostic Expr :=
  match macroOf name args.length with
  | some m =>
    match args with
    | .ident _ v :: rest => .ok (.fold pos m target v rest)
    | a :: _ => .error ⟨a.pos, "argument must be a simple name"⟩
    | [] => .ok (.method pos name target args)
  | none => .ok (.method pos name target args)

def callOrMacro (pos : Nat) (name : String) (args : List Expr) : Except Diagnostic Expr :=
  if name = "has" && args.length = 1 then
    match args with
    | [.select _ operand field] => .ok (.test pos operand field)
    | a :: _ => .error ⟨a.pos, "invalid argument to has() macro"⟩
    | [] => .ok (.call pos name args)
  else .ok (.call pos name args)

/-- Reading a tree: the diagnostics so far, and a stop when the nesting goes too deep. -/
abbrev Reading := ExceptT Unit (StateM (Array Diagnostic))

def Reading.report (pos : Nat) (message : String) : Reading Unit :=
  modify (·.push ⟨pos, message⟩)

def maxNesting : Nat := 250

def Reading.nest (depth : Nat) : Reading Nat :=
  if depth + 1 > maxNesting then throw () else pure (depth + 1)

def allPresent : List (Option Expr) → Option (List Expr)
  | [] => some []
  | none :: _ => none
  | some e :: rest => (allPresent rest).map (e :: ·)

def Reading.build (made : Except Diagnostic Expr) : Reading (Option Expr) :=
  match made with
  | .ok e => pure (some e)
  | .error d => do Reading.report d.pos d.message; pure none

mutual
def readTree : Nat → Nat → Tree → Reading (Option Expr)
  | 0, _, _ => pure none
  | fuel + 1, depth, t =>
    match t with
    | .broken => pure none
    | .ternary cond q yes no => do
      let d ← Reading.nest depth
      let c ← readTree fuel d cond
      let a ← readPart fuel d yes
      let b ← readPart fuel d no
      pure ((allPresent [c, a, b]).map (.call q.start "_?_:_" ·))
    | .logical isOr first rest => do
      let f ← readTree fuel depth first
      let rs ← readTrees fuel depth (rest.map (·.2))
      let fn := if isOr then "_||_" else "_&&_"
      pure ((allPresent (f :: rs)).map fun terms =>
        balance fn terms (rest.map (·.1.start)) (terms.length + 2))
    | .binary op lhs rhs => do
      let d ← Reading.nest depth
      let l ← readTree fuel d lhs
      let r ← readTree fuel d rhs
      pure (do
        let fn ← binaryName op.kind
        let args ← allPresent [l, r]
        pure (.call op.start fn args))
    | .prefixed negate ops operand =>
      match ops with
      | op :: _ =>
        if ops.length % 2 = 0 then readPart fuel depth operand
        else do
          let m ← readPart fuel depth operand
          pure (m.map fun m => .call op.start (if negate then "-_" else "!_") [m])
      | [] => readPart fuel depth operand
    | .select operand dot opt name => do
      let d ← Reading.nest depth
      let o ← readTree fuel d operand
      match name with
      | none => pure none
      | some n =>
        match opt with
        | some _ => do Reading.report dot.start "unsupported syntax '.?'"; pure none
        | none => pure (o.map fun o => .select dot.start o n.text)
    | .memberCall operand _ name paren args => do
      let d ← Reading.nest depth
      let o ← readTree fuel d operand
      match name with
      | none => pure none
      | some n => do
        let as ← readTrees fuel d args
        match o, allPresent as, paren with
        | some o, some as, some p => Reading.build (methodOrMacro p.start n.text o as)
        | _, _, _ => pure none
    | .index operand bracket opt idx => do
      let d ← Reading.nest depth
      let o ← readTree fuel d operand
      let i ← readPart fuel d idx
      match opt with
      | some _ => do Reading.report bracket.start "unsupported syntax '[?'"; pure none
      | none => pure ((allPresent [o, i]).map (.call bracket.start "_[_]" ·))
    | .ident dot name call =>
      match name with
      | none => pure none
      | some n =>
        if reservedWords.contains n.text then do
          Reading.report (dot.getD n).start ("reserved identifier: " ++ n.text)
          pure none
        else
          let full := (if dot.isSome then "." else "") ++ n.text
          match call with
          | none => pure (some (.ident n.start full))
          | some (paren, args) => do
            let as ← readTrees fuel depth args
            match allPresent as with
            | some as => Reading.build (callOrMacro paren.start full as)
            | none => pure none
    | .list bracket elems => do
      let items ← readElements fuel depth elems
      pure ((allPresent items).map (.list bracket.start ·))
    | .map brace keys colons values => do
      let entries ← readEntries fuel depth keys colons values
      pure (entries.map (.map brace.start ·))
    | .message dot names brace fields colons values => do
      let entries ← readFields fuel depth fields colons values
      let name := (if dot.isSome then "." else "") ++ ".".intercalate (names.map (·.text))
      match brace, entries with
      | some b, some es => pure (some (.message b.start name es))
      | _, _ => pure none
    | .literal sign tok =>
      match literalOf sign.isSome tok with
      | .ok l => pure (some (.lit (sign.getD tok).start l))
      | .error m => do Reading.report (sign.getD tok).start m; pure none

def readPart : Nat → Nat → Option Tree → Reading (Option Expr)
  | _, _, none => pure none
  | fuel, depth, some t => readTree fuel depth t

def readTrees : Nat → Nat → List Tree → Reading (List (Option Expr))
  | _, _, [] => pure []
  | fuel, depth, t :: ts => do
    let e ← readTree fuel depth t
    let es ← readTrees fuel depth ts
    pure (e :: es)

def readElements : Nat → Nat → List (Option Lexeme × Option Tree) → Reading (List (Option Expr))
  | _, _, [] => pure []
  | fuel, depth, (opt, t) :: rest => do
    let e ← readPart fuel depth t
    match opt with
    | some q => Reading.report q.start "unsupported syntax '?'"
    | none => pure ()
    let es ← readElements fuel depth rest
    pure (e :: es)

def readEntries : Nat → Nat → List (Option Lexeme × Option Tree) → List Lexeme → List Tree →
    Reading (Option (List (Expr × Expr)))
  | _, _, _, [], _ => pure (some [])
  | fuel, depth, (opt, k) :: keys, _ :: colons, v :: values =>
    match opt with
    | some q => do
      Reading.report q.start "unsupported syntax '?'"
      let _ ← readEntries fuel depth keys colons values
      pure none
    | none => do
      let key ← readPart fuel depth k
      let value ← readTree fuel depth v
      let rest ← readEntries fuel depth keys colons values
      pure (do pure ((← key, ← value) :: (← rest)))
  | _, _, _, _ :: _, _ => pure none

def readFields : Nat → Nat → List (Option Lexeme × Option Lexeme) → List Lexeme → List Tree →
    Reading (Option (List (String × Expr)))
  | _, _, _, [], _ => pure (some [])
  | fuel, depth, (opt, name) :: fields, _ :: colons, v :: values =>
    match opt, name with
    | some q, _ => do
      Reading.report q.start "unsupported syntax '?'"
      let _ ← readFields fuel depth fields colons values
      pure none
    | none, some n => do
      let value ← readTree fuel depth v
      let rest ← readFields fuel depth fields colons values
      pure (do pure ((n.text, ← value) :: (← rest)))
    | none, none => pure none
  | _, _, _, _ :: _, _ => pure none
end

end MessageTemplate.Condition
