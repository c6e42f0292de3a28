import MessageTemplate.Condition.Tree
/-! Reading the tokens of a condition into its parse tree, with the diagnostics of the grammar's
parser for malformed conditions. -/
namespace MessageTemplate.Condition

def startKinds : List Kind :=
  [.lbracket, .lbrace, .lparen, .dot, .minus, .bang, .kwTrue, .kwFalse, .kwNull, .float, .int,
    .uint, .string, .bytes, .ident]

def memberKinds : List Kind := startKinds.erase .bang

def literalKinds : List Kind :=
  [.minus, .kwTrue, .kwFalse, .kwNull, .float, .int, .uint, .string, .bytes]

def relationKinds : List Kind := [.eq, .ne, .kwIn, .lt, .le, .ge, .gt]

def productKinds : List Kind := [.star, .slash, .percent]

def sumKinds : List Kind := [.plus, .minus]

/-- What can come next at a point of the grammar within its rule, and whether the rule can end
there. -/
structure Look where
  kinds : List Kind
  canEnd : Bool

namespace Look

def finish : Look := ⟨[], true⟩

def just (k : Kind) : Look := ⟨[k], false⟩

/-- An expression, which must come. -/
def start : Look := ⟨startKinds, false⟩

/-- After a member: more selections, calls and indexes, or the end of the rule. -/
def suffix : Look := ⟨[.dot, .lbracket], true⟩

/-- Call arguments or the closing parenthesis. -/
def args : Look := ⟨startKinds ++ [.rparen], false⟩

end Look

def expectedAt (here : Look) : List Look → List Kind
  | [] => here.kinds ++ (if here.canEnd then [.eof] else [])
  | outer :: rest => if here.canEnd then here.kinds ++ expectedAt outer rest else here.kinds

def recoverySet (ctx : List Look) : List Kind := ctx.flatMap (·.kinds)

def expectedText (ks : List Kind) : String :=
  match ks.eraseDups.mergeSort (fun a b => decide (a.rank ≤ b.rank)) with
  | [k] => k.display
  | sorted => "\x7b" ++ ", ".intercalate (sorted.map Kind.display) ++ "\x7d"

/-- A text quoted as a syntax error shows it, with blanks made visible. -/
def shown (s : String) : String :=
  "'" ++ String.join (s.toList.map fun c =>
    if c = '\n' then "\\n" else if c = '\t' then "\\t" else if c = '\r' then "\\r"
    else String.singleton c) ++ "'"

def tokenText (t : Lexeme) : String := if t.kind = .eof then "'<EOF>'" else shown t.text

def noViableMessage (input : String) : String :=
  match input.toList with
  | '\'' :: _ :: rest =>
    let word := String.ofList rest.dropLast
    if rest.getLast? = some '\'' && ["true", "false", "null"].contains word then
      "mismatched input '" ++ word ++ "' expecting IDENTIFIER"
    else "no viable alternative at input " ++ input
  | _ => "no viable alternative at input " ++ input

def maxReports : Nat := 100

def maxActive : Nat := 250

def maxRecoveries : Nat := 30

def maxSkipped : Nat := 256

def ruleCount : Nat := 16

/-- The state of reading: the tokens (ending with the end marker), the source and the parts
of it that the lexer could not read, the current token, the point of the grammar reached and
what can come next there, whether an error is being recovered from, where the last recovery
started, the diagnostics so far, the number of active invocations of each rule, the number of
attempts to recover from errors, whether tokens are only being looked ahead at, and the index
of the token of the first syntax error. -/
structure Reader where
  tokens : Array Lexeme
  source : Array Char
  skipped : List Fault := []
  index : Nat := 0
  point : Nat := 0
  here : Look := Look.finish
  recovering : Bool := false
  lastErrorIndex : Option Nat := none
  lastErrorPoints : List Nat := []
  errors : Array Diagnostic := #[]
  reports : Nat := 0
  active : Array Nat := Array.replicate ruleCount 0
  recoveries : Nat := 0
  probing : Bool := false
  failure : Option Nat := none

def Reader.tokenAt (r : Reader) (i : Nat) : Lexeme :=
  r.tokens.getD i (r.tokens.getD (r.tokens.size - 1) ⟨.eof, r.source.size, "<EOF>", [], [], false⟩)

/-- Why a rule cannot go on: no alternative fits the tokens from index `start` to `offending`,
or the token at `offending` is not one the grammar allows there. -/
inductive Mismatch where
  | noViable (start offending : Nat)
  | input (offending : Nat)

/-- Why reading stops: a mismatch, which the rule being read recovers from, or a stop of the
whole reading, with a message about the condition as a whole if there is one. -/
inductive Failure where
  | mismatch (m : Mismatch)
  | halt (general : Option String)

/-- Reading tokens. -/
abbrev Read := ExceptT Failure (StateM Reader)

/-- The token `k` places ahead, from 1 for the current token. -/
def ahead (k : Nat) : Read Lexeme := do
  let r ← get
  pure (r.tokenAt (r.index + k - 1))

def advance : Read Unit :=
  modify fun r => if (r.tokenAt r.index).kind = .eof then r else { r with index := r.index + 1 }

def goTo (point : Nat) (here : Look) : Read Unit :=
  modify fun r => { r with point := point, here := here }

def endRecovery : Read Unit :=
  modify fun r => { r with recovering := false, lastErrorIndex := none, lastErrorPoints := [] }

def notify (token pos : Nat) (message : String) : Read Unit := do
  modify fun r => if r.failure.isNone then { r with failure := some token } else r
  let r ← get
  if r.reports < maxReports then
    let d : Diagnostic := ⟨pos, "Syntax error: " ++ message⟩
    set { r with reports := r.reports + 1, errors := r.errors.push d }
  else
    let d : Diagnostic :=
      ⟨pos, "Syntax error: More than " ++ toString maxReports ++ " syntax errors"⟩
    set { r with errors := r.errors.push d }
    throw (.halt none)

def countRecovery : Read Unit := do
  let r ← get
  set { r with recoveries := r.recoveries + 1 }
  if r.recoveries = maxRecoveries then
    notify r.index (r.tokenAt r.index).start
      ("error recovery attempt limit exceeded: " ++ toString maxRecoveries)
    throw (.halt none)

def skipOne (skipped : Nat) : Read Nat := do
  if skipped ≥ maxSkipped then
    throw (.halt (some ("error recovery token lookahead limit exceeded: " ++ toString maxSkipped)))
  advance
  pure (skipped + 1)

def reportUnwanted (ctx : List Look) : Read Unit := do
  let r ← get
  if r.recovering then return
  set { r with recovering := true }
  let t ← ahead 1
  notify r.index t.start ("extraneous input " ++ tokenText t ++ " expecting " ++
    expectedText (expectedAt r.here ctx))

def reportMissing (ctx : List Look) : Read Unit := do
  let r ← get
  if r.recovering then return
  set { r with recovering := true }
  let t ← ahead 1
  notify r.index t.start ("missing " ++ expectedText (expectedAt r.here ctx) ++ " at " ++ tokenText t)

def deleteOne (ctx : List Look) : Read (Option Lexeme) := do
  let next ← ahead 2
  if (expectedAt (← get).here ctx).contains next.kind then
    reportUnwanted ctx
    advance
    let t ← ahead 1
    endRecovery
    pure (some t)
  else pure none

def insertOne (ctx : List Look) (after : Look) : Read Bool := do
  let t ← ahead 1
  if (expectedAt after ctx).contains t.kind then
    reportMissing ctx
    pure true
  else pure false

def expectOneOf (ctx : List Look) (point : Nat) (ks : List Kind) (after : Look) :
    Read Lexeme := do
  goTo point ⟨ks, false⟩
  let t ← ahead 1
  if ks.contains t.kind then
    endRecovery
    advance
    pure t
  else
    countRecovery
    match ← deleteOne ctx with
    | some m => advance; pure m
    | none =>
      if ← insertOne ctx after then
        let kind := ks.headD .eof
        pure { kind := kind, start := t.start, text := "<missing " ++ kind.display ++ ">" }
      else throw (.mismatch (.input (← get).index))

def expect (ctx : List Look) (point : Nat) (k : Kind) (after : Look) : Read Lexeme :=
  expectOneOf ctx point [k] after

def skipUntil (stop : List Kind) : Nat → Read Unit
  | 0 => pure ()
  | n + 1 => do
    let t ← ahead 1
    if t.kind = .eof || stop.contains t.kind then pure ()
    else do
      advance
      skipUntil stop n

def skipCounted (stop : List Kind) (skipped : Nat) : Nat → Read Unit
  | 0 => pure ()
  | n + 1 => do
    let t ← ahead 1
    if t.kind = .eof || stop.contains t.kind then pure ()
    else do
      let skipped ← skipOne skipped
      skipCounted stop skipped n

def sync (ctx : List Look) (point : Nat) (here : Look) : Read Unit := do
  goTo point here
  let r ← get
  if r.recovering || here.canEnd then return
  if here.kinds.contains (← ahead 1).kind then return
  match ← deleteOne ctx with
  | some _ => pure ()
  | none => throw (.mismatch (.input r.index))

def syncLoop (ctx : List Look) (point : Nat) (here : Look) : Read Unit := do
  goTo point here
  let r ← get
  if r.recovering || here.canEnd then return
  if here.kinds.contains (← ahead 1).kind then return
  reportUnwanted ctx
  skipUntil (expectedAt here ctx ++ recoverySet ctx) r.tokens.size

def reportMismatch (ctx : List Look) (m : Mismatch) : Read Unit := do
  let r ← get
  if r.recovering then return
  set { r with recovering := true }
  match m with
  | .noViable start offending =>
    let s := r.tokenAt start
    let o := r.tokenAt offending
    let stop := if o.kind = .eof then o.start else o.start + o.text.length
    let unread (i : Nat) : Bool := r.skipped.any fun f => f.start ≤ i && i < f.start + f.text.length
    let input := if s.kind = .eof then "<EOF>"
      else String.ofList ((List.range' s.start (stop - s.start)).filterMap fun i =>
        if unread i then none else r.source[i]?)
    notify offending o.start (noViableMessage (shown input))
  | .input offending =>
    let o := r.tokenAt offending
    notify offending o.start ("mismatched input " ++ tokenText o ++ " expecting " ++
      expectedText (expectedAt r.here ctx))

def recover (ctx : List Look) : Read Unit := do
  countRecovery
  let r ← get
  let skipped ← if r.lastErrorIndex = some r.index && r.lastErrorPoints.contains r.point then
      skipOne 0
    else pure 0
  modify fun r =>
    { r with lastErrorIndex := some r.index, lastErrorPoints := r.point :: r.lastErrorPoints }
  skipCounted (recoverySet ctx) skipped (← get).tokens.size

/-- Run a step of a rule. A mismatch is reported and recovered from, and ends the rule: then
the step gives nothing. -/
def step {α : Type} (ctx : List Look) (x : Read α) : Read (Option α) :=
  tryCatch (some <$> x) fun
    | .mismatch m => do
      reportMismatch ctx m
      recover ctx
      pure none
    | f => throw f

def tooDeep {α : Type} : Read α :=
  throw (.halt (some ("expression recursion limit exceeded: " ++ toString maxActive)))

/-- Read a rule: one more active invocation of it while its body runs. -/
def rule {α : Type} (id : Nat) (body : Read α) : Read α := do
  let r ← get
  let n := r.active.getD id 0 + 1
  if n > maxActive then tooDeep
  set { r with active := r.active.set! id n }
  let t ← body
  modify fun r => { r with active := r.active.modify id (· - 1) }
  pure t

def noViable {α : Type} (start offending : Nat) : Read α := do
  let r ← get
  throw (.mismatch (.noViable (r.index + start - 1) (r.index + offending - 1)))

def noViableTo {α : Type} (offending : Nat) : Read α := do
  throw (.mismatch (.noViable (← get).index offending))

/-- The alternatives of a unary expression. -/
inductive UnaryForm where
  | member | not | negate

/-- The alternatives that extend a member. -/
inductive Suffix where
  | select | call | index

/-- The alternatives of a primary. -/
inductive PrimaryForm where
  | ident | nested | list | map | message | literal

def decideUnary : Read UnaryForm := do
  let k1 := (← ahead 1).kind
  if k1 = .bang then pure .not
  else if k1 = .minus then
    let k2 := (← ahead 2).kind
    if k2 = .int || k2 = .float then pure .member
    else if memberKinds.contains k2 then pure .negate
    else noViable 1 2
  else if memberKinds.contains k1 then pure .member
  else noViable 1 1

def decideNegation : Read Bool := do
  let k1 := (← ahead 1).kind
  if k1 = .minus then
    if memberKinds.contains (← ahead 2).kind then pure true else noViable 1 2
  else if memberKinds.contains k1 then pure false
  else noViable 1 1

def decideSuffix : Read Suffix := do
  if (← ahead 1).kind = .lbracket then pure .index
  else
    let k2 := (← ahead 2).kind
    if k2 = .question then pure .select
    else if k2 = .ident then
      if (← ahead 3).kind = .lparen then pure .call else pure .select
    else noViable 1 2

def messageAhead (r : Reader) (i : Nat) : Nat → Bool
  | 0 => false
  | n + 1 =>
    let next := (r.tokenAt (i + 1)).kind
    if next = .lbrace then true
    else if next = .dot && (r.tokenAt (i + 2)).kind = .ident then messageAhead r (i + 2) n
    else false

def decidePrimary : Read PrimaryForm := do
  let r ← get
  match (← ahead 1).kind with
  | .lparen => pure .nested
  | .lbracket => pure .list
  | .lbrace => pure .map
  | .dot =>
    if (← ahead 2).kind = .ident then
      pure (if messageAhead r (r.index + 1) r.tokens.size then .message else .ident)
    else noViable 1 2
  | .ident => pure (if messageAhead r r.index r.tokens.size then .message else .ident)
  | k => if literalKinds.contains k then pure .literal else noViable 1 1

def decideLiteral : Read Kind := do
  let k1 := (← ahead 1).kind
  if k1 = .minus then
    let k2 := (← ahead 2).kind
    if k2 = .int || k2 = .float then pure k2 else noViable 1 2
  else if literalKinds.contains k1 then pure k1
  else noViable 1 1

def listLook : Look := ⟨.question :: startKinds ++ [.comma, .rbracket], false⟩

def mapLook : Look := ⟨.question :: startKinds ++ [.comma, .rbrace], false⟩

def nameLook : Look := ⟨[.dot, .lbrace], false⟩

def fieldsLook : Look := ⟨[.question, .ident, .comma, .rbrace], false⟩

mutual
def readExpr : Nat → List Look → Read Tree
  | 0, _ => tooDeep
  | fuel + 1, ctx => rule 1 do
    let c ← readOr fuel (⟨[.question], true⟩ :: ctx)
    if (← ahead 1).kind ≠ .question then return c
    let some q ← step ctx (expect ctx 1 .question Look.start) | return c
    let a ← readOr fuel (Look.just .colon :: ctx)
    let some _ ← step ctx (expect ctx 2 .colon Look.start) | return .ternary c q (some a) none
    let b ← readExpr fuel (Look.finish :: ctx)
    pure (.ternary c q (some a) (some b))

def readOr : Nat → List Look → Read Tree
  | 0, _ => tooDeep
  | fuel + 1, ctx => rule 2 do
    let first ← readAnd fuel (⟨[.or], true⟩ :: ctx)
    let rest ← readOrMore fuel ctx
    pure (if rest.isEmpty then first else .logical true first rest)

def readOrMore : Nat → List Look → Read (List (Lexeme × Tree))
  | 0, _ => tooDeep
  | fuel + 1, ctx => do
    if (← ahead 1).kind ≠ .or then return []
    let some op ← step ctx (expect ctx 3 .or Look.start) | return []
    let e ← readAnd fuel (⟨[.or], true⟩ :: ctx)
    let more ← readOrMore fuel ctx
    pure ((op, e) :: more)

def readAnd : Nat → List Look → Read Tree
  | 0, _ => tooDeep
  | fuel + 1, ctx => rule 3 do
    let first ← readRelation fuel (⟨[.and], true⟩ :: ctx) 0
    let rest ← readAndMore fuel ctx
    pure (if rest.isEmpty then first else .logical false first rest)

def readAndMore : Nat → List Look → Read (List (Lexeme × Tree))
  | 0, _ => tooDeep
  | fuel + 1, ctx => do
    if (← ahead 1).kind ≠ .and then return []
    let some op ← step ctx (expect ctx 4 .and Look.start) | return []
    let e ← readRelation fuel (⟨[.and], true⟩ :: ctx) 0
    let more ← readAndMore fuel ctx
    pure ((op, e) :: more)

def readRelation : Nat → List Look → Nat → Read Tree
  | 0, _, _ => tooDeep
  | fuel + 1, ctx, prec => rule 4 do
    let left ← readCalc fuel (⟨relationKinds, true⟩ :: ctx) 0
    readRelationMore fuel ctx prec left

def readRelationMore : Nat → List Look → Nat → Tree → Read Tree
  | 0, _, _, _ => tooDeep
  | fuel + 1, ctx, prec, left => do
    if !(relationKinds.contains (← ahead 1).kind && prec ≤ 1) then return left
    let some op ← step ctx (expectOneOf ctx 5 relationKinds Look.start) | return left
    let right ← readRelation fuel (⟨relationKinds, true⟩ :: ctx) 2
    readRelationMore fuel ctx prec (.binary op left right)

def readCalc : Nat → List Look → Nat → Read Tree
  | 0, _, _ => tooDeep
  | fuel + 1, ctx, prec => rule 5 do
    let left ← readUnary fuel (⟨productKinds ++ sumKinds, true⟩ :: ctx)
    readCalcMore fuel ctx prec left

def readCalcMore : Nat → List Look → Nat → Tree → Read Tree
  | 0, _, _, _ => tooDeep
  | fuel + 1, ctx, prec, left => do
    let k := (← ahead 1).kind
    let (ops, level) := if productKinds.contains k then (productKinds, 2) else (sumKinds, 1)
    if !(ops.contains k && prec ≤ level) then return left
    let some op ← step ctx (expectOneOf ctx 6 ops Look.start) | return left
    let right ← readCalc fuel (⟨productKinds ++ sumKinds, true⟩ :: ctx) (level + 1)
    readCalcMore fuel ctx prec (.binary op left right)

def readUnary : Nat → List Look → Read Tree
  | 0, _ => tooDeep
  | fuel + 1, ctx => rule 6 do
    let some _ ← step ctx (sync ctx 7 Look.start) | return .broken
    let some form ← step ctx (do
        let form ← decideUnary
        if (← ahead 1).kind ≠ .minus then return form
        match form with
        | .member =>
          match ← signFailure fuel ctx with
          | some j => noViableTo j
          | none => pure form
        | _ => pure form)
      | return .broken
    match form with
    | .member => readMember fuel (Look.finish :: ctx)
    | .not =>
      let (ops, ended) ← readNots fuel ctx
      if ended then return .prefixed false ops none
      let m ← readMember fuel (Look.finish :: ctx)
      pure (.prefixed false ops (some m))
    | .negate =>
      let (ops, ended) ← readNegations fuel ctx
      if ended then return .prefixed true ops none
      let m ← readMember fuel (Look.finish :: ctx)
      pure (.prefixed true ops (some m))

def signFailure : Nat → List Look → Read (Option Nat)
  | 0, _ => pure none
  | fuel + 1, ctx => do
    let saved ← get
    if saved.probing then return none
    set { saved with
      index := saved.index + 2, recovering := false, lastErrorIndex := none
      lastErrorPoints := [], reports := 0, recoveries := 0, failure := none, probing := true }
    let finished ← tryCatch (do let _ ← readSuffixes fuel (Look.finish :: ctx) .broken; pure true)
      fun _ => pure false
    let r ← get
    set saved
    match r.failure with
    | some j => pure (some j)
    | none =>
      let next := r.tokenAt r.index
      if finished && !(expectedAt Look.finish ctx).contains next.kind then pure (some r.index)
      else pure none

def readNots : Nat → List Look → Read (List Lexeme × Bool)
  | 0, _ => tooDeep
  | fuel + 1, ctx => do
    let some op ← step ctx (expect ctx 8 .bang ⟨.bang :: memberKinds, false⟩) | return ([], true)
    syncLoop ctx 9 ⟨.bang :: memberKinds, false⟩
    if (← ahead 1).kind ≠ .bang then return ([op], false)
    let (more, ended) ← readNots fuel ctx
    pure (op :: more, ended)

def readNegations : Nat → List Look → Read (List Lexeme × Bool)
  | 0, _ => tooDeep
  | fuel + 1, ctx => do
    let some op ← step ctx (expect ctx 10 .minus ⟨.minus :: memberKinds, false⟩)
      | return ([], true)
    syncLoop ctx 11 ⟨.minus :: memberKinds, false⟩
    let some again ← step ctx decideNegation | return ([op], true)
    if !again then return ([op], false)
    let (more, ended) ← readNegations fuel ctx
    pure (op :: more, ended)

def readMember : Nat → List Look → Read Tree
  | 0, _ => tooDeep
  | fuel + 1, ctx => rule 7 do
    let p ← readPrimary fuel (Look.suffix :: ctx)
    readSuffixes fuel ctx p

def readSuffixes : Nat → List Look → Tree → Read Tree
  | 0, _, _ => tooDeep
  | fuel + 1, ctx, operand => do
    let k := (← ahead 1).kind
    if k ≠ .dot && k ≠ .lbracket then return operand
    goTo 12 ⟨[.dot, .lbracket], false⟩
    let some form ← step ctx decideSuffix | return operand
    match form with
    | .select =>
      let some dot ← step ctx (expect ctx 13 .dot ⟨[.question, .ident], false⟩) | return operand
      let some _ ← step ctx (sync ctx 14 ⟨[.question, .ident], false⟩)
        | return .select operand dot none none
      let mut opt := none
      if (← ahead 1).kind = .question then
        let some q ← step ctx (expect ctx 15 .question (Look.just .ident))
          | return .select operand dot none none
        opt := some q
      let some name ← step ctx (expect ctx 16 .ident Look.suffix)
        | return .select operand dot opt none
      readSuffixes fuel ctx (.select operand dot opt (some name))
    | .call =>
      let some dot ← step ctx (expect ctx 17 .dot (Look.just .ident)) | return operand
      let some name ← step ctx (expect ctx 18 .ident (Look.just .lparen))
        | return .memberCall operand dot none none []
      let some paren ← step ctx (expect ctx 19 .lparen Look.args)
        | return .memberCall operand dot (some name) none []
      let some _ ← step ctx (sync ctx 20 Look.args)
        | return .memberCall operand dot (some name) (some paren) []
      let args ← if startKinds.contains (← ahead 1).kind then
          readExprList fuel (Look.just .rparen :: ctx)
        else pure []
      let some _ ← step ctx (expect ctx 21 .rparen Look.suffix)
        | return .memberCall operand dot (some name) (some paren) args
      readSuffixes fuel ctx (.memberCall operand dot (some name) (some paren) args)
    | .index =>
      let some bracket ← step ctx (expect ctx 22 .lbracket ⟨.question :: startKinds, false⟩)
        | return operand
      let some _ ← step ctx (sync ctx 23 ⟨.question :: startKinds, false⟩)
        | return .index operand bracket none none
      let mut opt := none
      if (← ahead 1).kind = .question then
        let some q ← step ctx (expect ctx 24 .question Look.start)
          | return .index operand bracket none none
        opt := some q
      let e ← readExpr fuel (Look.just .rbracket :: ctx)
      let some _ ← step ctx (expect ctx 25 .rbracket Look.suffix)
        | return .index operand bracket opt (some e)
      readSuffixes fuel ctx (.index operand bracket opt (some e))

def readPrimary : Nat → List Look → Read Tree
  | 0, _ => tooDeep
  | fuel + 1, ctx => rule 8 do
    let some _ ← step ctx (sync ctx 26 ⟨memberKinds, false⟩) | return .broken
    let some form ← step ctx decidePrimary | return .broken
    match form with
    | .ident => readIdent fuel ctx
    | .nested =>
      let some _ ← step ctx (expect ctx 34 .lparen Look.start) | return .broken
      let e ← readExpr fuel (Look.just .rparen :: ctx)
      let _ ← step ctx (expect ctx 35 .rparen Look.finish)
      pure e
    | .list => readList fuel ctx
    | .map => readMap fuel ctx
    | .message => readMessage fuel ctx
    | .literal => readLiteral fuel (Look.finish :: ctx)

def readIdent : Nat → List Look → Read Tree
  | 0, _ => tooDeep
  | fuel + 1, ctx => do
    let some _ ← step ctx (sync ctx 27 ⟨[.dot, .ident], false⟩) | return .ident none none none
    let mut dot := none
    if (← ahead 1).kind = .dot then
      let some d ← step ctx (expect ctx 28 .dot (Look.just .ident)) | return .ident none none none
      dot := some d
    let some name ← step ctx (expect ctx 29 .ident ⟨[.lparen], true⟩) | return .ident dot none none
    if (← ahead 1).kind ≠ .lparen then return .ident dot (some name) none
    let some paren ← step ctx (expect ctx 30 .lparen Look.args)
      | return .ident dot (some name) none
    let some _ ← step ctx (sync ctx 31 Look.args) | return .ident dot (some name) (some (paren, []))
    let args ← if startKinds.contains (← ahead 1).kind then
        readExprList fuel (Look.just .rparen :: ctx)
      else pure []
    let _ ← step ctx (expect ctx 32 .rparen Look.finish)
    pure (.ident dot (some name) (some (paren, args)))

def readList : Nat → List Look → Read Tree
  | 0, _ => tooDeep
  | fuel + 1, ctx => do
    let some bracket ← step ctx (expect ctx 36 .lbracket listLook) | return .broken
    let some _ ← step ctx (sync ctx 37 listLook) | return .list bracket []
    let elems ← if (.question :: startKinds).contains (← ahead 1).kind then
        readListInit fuel (⟨[.comma, .rbracket], false⟩ :: ctx)
      else pure []
    let some _ ← step ctx (sync ctx 38 ⟨[.comma, .rbracket], false⟩) | return .list bracket elems
    if (← ahead 1).kind = .comma then
      if (← step ctx (expect ctx 39 .comma (Look.just .rbracket))).isNone then
        return .list bracket elems
    let _ ← step ctx (expect ctx 40 .rbracket Look.finish)
    pure (.list bracket elems)

def readMap : Nat → List Look → Read Tree
  | 0, _ => tooDeep
  | fuel + 1, ctx => do
    let some brace ← step ctx (expect ctx 41 .lbrace mapLook) | return .broken
    let some _ ← step ctx (sync ctx 42 mapLook) | return .map brace [] [] []
    let (keys, colons, values) ← if (.question :: startKinds).contains (← ahead 1).kind then
        readMapInit fuel (⟨[.comma, .rbrace], false⟩ :: ctx)
      else pure ([], [], [])
    let done := Tree.map brace keys colons values
    let some _ ← step ctx (sync ctx 43 ⟨[.comma, .rbrace], false⟩) | return done
    if (← ahead 1).kind = .comma then
      if (← step ctx (expect ctx 44 .comma (Look.just .rbrace))).isNone then return done
    let _ ← step ctx (expect ctx 45 .rbrace Look.finish)
    pure done

def readMessage : Nat → List Look → Read Tree
  | 0, _ => tooDeep
  | fuel + 1, ctx => do
    let some _ ← step ctx (sync ctx 47 ⟨[.dot, .ident], false⟩) | return .message none [] none [] [] []
    let mut dot := none
    if (← ahead 1).kind = .dot then
      let some d ← step ctx (expect ctx 48 .dot (Look.just .ident))
        | return .message none [] none [] [] []
      dot := some d
    let some first ← step ctx (expect ctx 49 .ident nameLook) | return .message dot [] none [] [] []
    let some _ ← step ctx (sync ctx 50 nameLook) | return .message dot [first] none [] [] []
    let (more, ended) ← readNameParts fuel ctx
    let names := first :: more
    if ended then return .message dot names none [] [] []
    let some brace ← step ctx (expect ctx 53 .lbrace fieldsLook) | return .message dot names none [] [] []
    let some _ ← step ctx (sync ctx 54 fieldsLook) | return .message dot names (some brace) [] [] []
    let (fields, colons, values) ← if [Kind.question, .ident].contains (← ahead 1).kind then
        readFieldInits fuel (⟨[.comma, .rbrace], false⟩ :: ctx)
      else pure ([], [], [])
    let done := Tree.message dot names (some brace) fields colons values
    let some _ ← step ctx (sync ctx 55 ⟨[.comma, .rbrace], false⟩) | return done
    if (← ahead 1).kind = .comma then
      if (← step ctx (expect ctx 56 .comma (Look.just .rbrace))).isNone then return done
    let _ ← step ctx (expect ctx 57 .rbrace Look.finish)
    pure done

def readNameParts : Nat → List Look → Read (List Lexeme × Bool)
  | 0, _ => tooDeep
  | fuel + 1, ctx => do
    if (← ahead 1).kind ≠ .dot then return ([], false)
    let some _ ← step ctx (expect ctx 51 .dot (Look.just .ident)) | return ([], true)
    let some n ← step ctx (expect ctx 52 .ident nameLook) | return ([], true)
    syncLoop ctx 58 nameLook
    let (more, ended) ← readNameParts fuel ctx
    pure (n :: more, ended)

def readExprList : Nat → List Look → Read (List Tree)
  | 0, _ => tooDeep
  | fuel + 1, ctx => rule 9 do
    let first ← readExpr fuel (⟨[.comma], true⟩ :: ctx)
    let rest ← readExprMore fuel ctx
    pure (first :: rest)

def readExprMore : Nat → List Look → Read (List Tree)
  | 0, _ => tooDeep
  | fuel + 1, ctx => do
    if (← ahead 1).kind ≠ .comma then return []
    let some _ ← step ctx (expect ctx 59 .comma Look.start) | return []
    let e ← readExpr fuel (⟨[.comma], true⟩ :: ctx)
    let more ← readExprMore fuel ctx
    pure (e :: more)

def readListInit : Nat → List Look → Read (List (Option Lexeme × Option Tree))
  | 0, _ => tooDeep
  | fuel + 1, ctx => rule 10 do
    let first ← readOptExpr fuel (⟨[.comma], true⟩ :: ctx)
    let rest ← readListMore fuel ctx
    pure (first :: rest)

def readListMore : Nat → List Look → Read (List (Option Lexeme × Option Tree))
  | 0, _ => tooDeep
  | fuel + 1, ctx => do
    if !((← ahead 1).kind = .comma && (.question :: startKinds).contains (← ahead 2).kind) then
      return []
    let some _ ← step ctx (expect ctx 60 .comma ⟨.question :: startKinds, false⟩) | return []
    let e ← readOptExpr fuel (⟨[.comma], true⟩ :: ctx)
    let more ← readListMore fuel ctx
    pure (e :: more)

def readOptExpr : Nat → List Look → Read (Option Lexeme × Option Tree)
  | 0, _ => tooDeep
  | fuel + 1, ctx => rule 14 do
    let some _ ← step ctx (sync ctx 61 ⟨.question :: startKinds, false⟩) | return (none, none)
    let mut opt := none
    if (← ahead 1).kind = .question then
      let some q ← step ctx (expect ctx 62 .question Look.start) | return (none, none)
      opt := some q
    let e ← readExpr fuel (Look.finish :: ctx)
    pure (opt, some e)

def readMapInit : Nat → List Look →
    Read (List (Option Lexeme × Option Tree) × List Lexeme × List Tree)
  | 0, _ => tooDeep
  | fuel + 1, ctx => rule 13 do
    let k ← readOptExpr fuel (Look.just .colon :: ctx)
    let some c ← step ctx (expect ctx 63 .colon Look.start) | return ([k], [], [])
    let v ← readExpr fuel (⟨[.comma], true⟩ :: ctx)
    readMapMore fuel ctx [k] [c] [v]

def readMapMore : Nat → List Look → List (Option Lexeme × Option Tree) → List Lexeme →
    List Tree → Read (List (Option Lexeme × Option Tree) × List Lexeme × List Tree)
  | 0, _, _, _, _ => tooDeep
  | fuel + 1, ctx, keys, colons, values => do
    if !((← ahead 1).kind = .comma && (.question :: startKinds).contains (← ahead 2).kind) then
      return (keys, colons, values)
    let some _ ← step ctx (expect ctx 64 .comma ⟨.question :: startKinds, false⟩)
      | return (keys, colons, values)
    let k ← readOptExpr fuel (Look.just .colon :: ctx)
    let some c ← step ctx (expect ctx 65 .colon Look.start) | return (keys ++ [k], colons, values)
    let v ← readExpr fuel (⟨[.comma], true⟩ :: ctx)
    readMapMore fuel ctx (keys ++ [k]) (colons ++ [c]) (values ++ [v])

def readFieldInits : Nat → List Look →
    Read (List (Option Lexeme × Option Lexeme) × List Lexeme × List Tree)
  | 0, _ => tooDeep
  | fuel + 1, ctx => rule 11 do
    let f ← readOptField fuel (Look.just .colon :: ctx)
    let some c ← step ctx (expect ctx 66 .colon Look.start) | return ([f], [], [])
    let v ← readExpr fuel (⟨[.comma], true⟩ :: ctx)
    readFieldMore fuel ctx [f] [c] [v]

def readFieldMore : Nat → List Look → List (Option Lexeme × Option Lexeme) → List Lexeme →
    List Tree → Read (List (Option Lexeme × Option Lexeme) × List Lexeme × List Tree)
  | 0, _, _, _, _ => tooDeep
  | fuel + 1, ctx, fields, colons, values => do
    if !((← ahead 1).kind = .comma && [Kind.question, .ident].contains (← ahead 2).kind) then
      return (fields, colons, values)
    let some _ ← step ctx (expect ctx 67 .comma ⟨[.question, .ident], false⟩)
      | return (fields, colons, values)
    let f ← readOptField fuel (Look.just .colon :: ctx)
    let some c ← step ctx (expect ctx 68 .colon Look.start) | return (fields ++ [f], colons, values)
    let v ← readExpr fuel (⟨[.comma], true⟩ :: ctx)
    readFieldMore fuel ctx (fields ++ [f]) (colons ++ [c]) (values ++ [v])

def readOptField : Nat → List Look → Read (Option Lexeme × Option Lexeme)
  | 0, _ => tooDeep
  | _ + 1, ctx => rule 12 do
    let some _ ← step ctx (sync ctx 69 ⟨[.question, .ident], false⟩) | return (none, none)
    let mut opt := none
    if (← ahead 1).kind = .question then
      let some q ← step ctx (expect ctx 70 .question (Look.just .ident)) | return (none, none)
      opt := some q
    let some n ← step ctx (expect ctx 71 .ident Look.finish) | return (opt, none)
    pure (opt, some n)

def readLiteral : Nat → List Look → Read Tree
  | 0, _ => tooDeep
  | _ + 1, ctx => rule 15 do
    let some _ ← step ctx (sync ctx 72 ⟨literalKinds, false⟩) | return .broken
    let some k ← step ctx decideLiteral | return .broken
    if k = .int || k = .float then
      let base := if k = .int then 73 else 76
      let some _ ← step ctx (sync ctx base ⟨[.minus, k], false⟩) | return .broken
      let mut sign := none
      if (← ahead 1).kind = .minus then
        let some s ← step ctx (expect ctx (base + 1) .minus (Look.just k)) | return .broken
        sign := some s
      let some t ← step ctx (expect ctx (base + 2) k Look.finish) | return .broken
      pure (.literal sign t)
    else
      let some t ← step ctx (expect ctx 79 k Look.finish) | return .broken
      pure (.literal none t)
end

def readStart (fuel : Nat) : Read Tree := rule 0 do
  let e ← readExpr fuel [⟨[.eof], false⟩]
  let _ ← step [] (expect [] 80 .eof Look.finish)
  pure e

/-- What is wrong with a condition: diagnostics at places in it, and messages about it as a
whole. -/
structure Issues where
  placed : List Diagnostic
  general : List String := []

def maxLength : Nat := 100000

def readTokens (src : String) (tokens : List Lexeme) (faults : List Fault) :
    Except Issues Expr :=
  let lexical := faults.map fun f =>
    (⟨f.start, "Syntax error: token recognition error at: '" ++ f.text ++ "'"⟩ : Diagnostic)
  let source := src.toList.toArray
  let toks := tokens.toArray
  let toks := if (toks.back?.map (·.kind)) = some .eof then toks
    else toks.push ⟨.eof, source.size, "<EOF>", [], [], false⟩
  let init : Reader :=
    { tokens := toks, source := source, skipped := faults, errors := lexical.toArray,
      reports := lexical.length }
  let fuel := 4 * ruleCount * (maxActive + 2) + 4 * toks.size + 64
  let (res, r) := (readStart fuel).run.run init
  match res with
  | .error (.halt general) => .error ⟨r.errors.toList, general.toList⟩
  | .error (.mismatch _) => .error ⟨r.errors.toList, []⟩
  | .ok tree =>
    let (read, errors) := (readTree fuel 0 tree).run.run r.errors
    match read with
    | .error () => .error ⟨errors.toList, ["max recursion depth exceeded"]⟩
    | .ok (some e) => if errors.isEmpty then .ok e else .error ⟨errors.toList, []⟩
    | .ok none => .error ⟨errors.toList, []⟩

def parseTokens (src : String) (tokens : List Lexeme) (faults : List Fault) :
    Except Issues Expr :=
  if src.length > maxLength then
    .error ⟨[], ["expression code point size exceeds limit: size: " ++ toString src.length ++
      ", limit " ++ toString maxLength]⟩
  else readTokens src tokens faults

end MessageTemplate.Condition
