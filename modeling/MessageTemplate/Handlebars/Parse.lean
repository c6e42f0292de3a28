import MessageTemplate.Handlebars.Lexer
import MessageTemplate.Handlebars.Syntax
import MessageTemplate.Numeric.Parse
/-! Reading the tokens of a handlebars template into its syntax tree, by recursive descent. -/
namespace MessageTemplate.Handlebars

/-- A syntax error: the line it is reported on and its message. -/
structure SyntaxError where
  line : Nat
  message : String
deriving Repr

/-- The text of a syntax error. -/
def SyntaxError.text (e : SyntaxError) : String :=
  "Parse error on line " ++ toString e.line ++ ":\n" ++ e.message

def tokenError (t : Token) (message : String) : SyntaxError :=
  ⟨t.line, message ++ "\nToken: " ++ t.describe⟩

def expectedError (k : TokenKind) (t : Token) : SyntaxError :=
  ⟨t.line, "Expecting " ++ k.name ++ ", got: '" ++ t.describe ++ "'"⟩

abbrev Reader := StateT (List Token) (Except SyntaxError)

def endToken : Token := ⟨.eof, "", 0, 1⟩

def peekAt (n : Nat) : Reader Token := do
  let ts ← get
  pure ((ts[n]?).getD ((ts.getLast?).getD endToken))

def peek : Reader Token := peekAt 0

/-- Take the next token; an error token fails as a lexical error, and the end of input stays. -/
def take : Reader Token := do
  let ts ← get
  match ts with
  | [] => pure endToken
  | t :: rest =>
    if t.kind = .error then throw (tokenError t "Lexer error")
    else if t.kind = .eof then pure t
    else do set rest; pure t

def takeKind (k : TokenKind) : Reader Token := do
  let t ← take
  if t.kind = k then pure t else throw (expectedError k t)

def nextIs (ks : List TokenKind) : Reader Bool := do
  let t ← peek
  pure (ks.contains t.kind)

def atHashPair : Reader Bool := do
  let a ← peekAt 0
  let b ← peekAt 1
  pure (a.kind = .id && b.kind = .equals)

def atOperand : Reader Bool := do
  let t ← peek
  let pair ← atHashPair
  pure ([.sexprOpen, .id, .data, .string, .number, .boolean].contains t.kind && !pair)

def extendPath (original : String) (depth : Nat) (anchored : Bool) (parts : List String)
    (part : String) : String × Nat × Bool × List String :=
  if part = ".." then (original ++ part, depth + 1, true, parts)
  else if part = "." || part = "this" then (original ++ part, depth, true, parts)
  else (original ++ part, depth, anchored, parts ++ [part])

def readPathRest (pos line : Nat) (data : Bool) : Nat → String → Nat → Bool → List String →
    Reader Operand
  | 0, original, depth, anchored, parts => pure (.path pos line data original depth anchored parts)
  | fuel + 1, original, depth, anchored, parts => do
    let t ← peek
    if t.kind ≠ .sep then return .path pos line data original depth anchored parts
    let sep ← take
    let name ← takeKind .id
    let (original, depth, anchored', parts') :=
      extendPath (original ++ sep.text) depth anchored parts name.text
    if !parts.isEmpty && (name.text = ".." || name.text = "." || name.text = "this") then
      throw (tokenError name ("Invalid path: " ++ original))
    readPathRest pos line data fuel original depth anchored' parts'

def readPath (data : Bool) : Reader Operand := do
  let t ← takeKind .id
  let (original, depth, anchored, parts) :=
    extendPath (if data then "@" else "") 0 false [] t.text
  let ts ← get
  readPathRest t.pos t.line data ts.length original depth anchored parts

def numberValue? (text : String) : Option (Binary × Bool) :=
  match Numeric.readSigned 64 text with
  | .ok i => some (Binary.ofInt FloatFormat.double i, true)
  | .error _ =>
    match Numeric.readFloat FloatFormat.double text with
    | .ok x => some (x, false)
    | .error _ => none

def readName : Reader Operand := do
  let t ← peek
  match t.kind with
  | .boolean => do let _ ← take; pure (.bool t.pos t.line (t.text = "true"))
  | .number => do
    let _ ← take
    match numberValue? t.text with
    | some (x, isInt) => pure (.num t.pos t.line x isInt)
    | none => throw (tokenError t ("Failed to parse number: " ++ t.text))
  | .string => do let _ ← take; pure (.str t.pos t.line t.text)
  | .data => do let _ ← take; readPath true
  | _ => readPath false

mutual
def readOperand : Nat → Reader Operand
  | 0 => throw ⟨0, "template nested too deeply"⟩
  | fuel + 1 => do
    let t ← peek
    if t.kind = .sexprOpen then
      let opening ← take
      let c ← readCall fuel opening
      let _ ← takeKind .sexprClose
      pure (.sub opening.pos opening.line c.head c.params c.hash)
    else readName

def readCall : Nat → Token → Reader Call
  | 0, _ => throw ⟨0, "template nested too deeply"⟩
  | fuel + 1, opening => do
    let head ← readName
    let params ← readParams fuel
    let hash ← readHash fuel
    pure ⟨opening.pos, head, params, hash⟩

def readParams : Nat → Reader (List Operand)
  | 0 => pure []
  | fuel + 1 => do
    if !(← atOperand) then return []
    let p ← readOperand fuel
    let ps ← readParams fuel
    pure (p :: ps)

def readHash : Nat → Reader (List (String × Operand))
  | 0 => pure []
  | fuel + 1 => do
    if !(← atHashPair) then return []
    let key ← take
    let _ ← take
    let v ← readOperand fuel
    let rest ← readHash fuel
    pure ((key.text, v) :: rest)
end

def readNames : Nat → Reader (List String)
  | 0 => pure []
  | fuel + 1 => do
    let n ← peek
    if n.kind ≠ .id then return []
    let _ ← take
    let rest ← readNames fuel
    pure (n.text :: rest)

def readBound : Reader (List String) := do
  let t ← peek
  if t.kind ≠ .paramsOpen then return []
  let _ ← take
  let names ← readNames (← get).length
  if names.isEmpty then throw (expectedError .id (← peek))
  let _ ← takeKind .paramsClose
  pure names

def tooDeep : SyntaxError := ⟨0, "template nested too deeply"⟩

def readEnd (opening closing : TokenKind) (name : String) : Reader Strip := do
  let first ← takeKind opening
  let endName ← readName
  match endName.blockName? with
  | none => throw ⟨endName.line, "Erroneous closing expression\nNode: " ++ endName.describe⟩
  | some closeName =>
    if closeName ≠ name then
      throw ⟨endName.line, name ++ " doesn't match " ++ closeName ++ "\nNode: " ++ endName.describe⟩
    let last ← takeKind closing
    pure (Strip.ofTags first.text last.text)

def readOpening (fuel : Nat) : Reader (Token × Call × List String × Strip) := do
  let opening ← take
  let c ← readCall fuel opening
  let bound ← readBound
  let closing ← takeKind .close
  pure (opening, c, bound, Strip.ofTags opening.text closing.text)

def readMustache (fuel : Nat) : Reader Node := do
  let opening ← take
  let closeKind := if opening.kind = .rawMustache then TokenKind.rawClose else .close
  let raw := opening.kind = .rawMustache || opening.text.contains '&'
  let c ← readCall fuel opening
  let closing ← takeKind closeKind
  pure (.mustache opening.pos opening.line c raw (Strip.ofTags opening.text closing.text))

def readPartial (fuel : Nat) : Reader Node := do
  let opening ← take
  let name ← readOperand fuel
  let params ← readParams fuel
  let _ ← readHash fuel
  let closing ← takeKind .close
  pure (.partialCall opening.pos opening.line name params (Strip.ofTags opening.text closing.text))

def readRawBlock (fuel : Nat) : Reader Node := do
  let opening ← take
  let c ← readCall fuel opening
  let _ ← takeKind .rawBlockClose
  let body ← takeKind .content
  let _ ← readEnd .rawBlockEnd .rawBlockClose (c.head.blockName?.getD "")
  pure (.block opening.pos opening.line c
    (some [.content body.pos body.line body.text body.text false false]) [] none false {} {} {})

def closeChain (inverse : Option (List Node)) (closeStrip : Strip) : Option (List Node) :=
  match inverse with
  | some (.block pos line c body bound inv chained o _ i :: rest) =>
    some (.block pos line c body bound inv chained o closeStrip i :: rest)
  | other => other

def statementStarts : List TokenKind :=
  [.mustache, .rawMustache, .block, .inverseOpen, .rawBlock, .partialOpen, .content, .comment]

mutual
def readProgram : Nat → Reader (List Node)
  | 0 => throw tooDeep
  | fuel + 1 => do
    if !(← nextIs statementStarts) then return []
    let s ← readStatement fuel
    let rest ← readProgram fuel
    pure (s :: rest)

def readStatement : Nat → Reader Node
  | 0 => throw tooDeep
  | fuel + 1 => do
    let t ← peek
    match t.kind with
    | .content => do let _ ← take; pure (.content t.pos t.line t.text t.text false false)
    | .comment => do let _ ← take; pure (.comment t.pos t.line (Strip.ofTag t.text))
    | .block => readBlock fuel
    | .inverseOpen => readInverted fuel
    | .rawBlock => readRawBlock fuel
    | .partialOpen => readPartial fuel
    | _ => readMustache fuel

def readBlock : Nat → Reader Node
  | 0 => throw tooDeep
  | fuel + 1 => do
    let (opening, c, bound, openStrip) ← readOpening fuel
    let body ← readProgram fuel
    let (inverse, chained, inverseStrip) ← readElse fuel
    let closeStrip ← readEnd .endBlock .close (c.head.blockName?.getD "")
    pure (.block opening.pos opening.line c (some body) bound (closeChain inverse closeStrip)
      chained openStrip closeStrip inverseStrip)

def readInverted : Nat → Reader Node
  | 0 => throw tooDeep
  | fuel + 1 => do
    let (opening, c, _, openStrip) ← readOpening fuel
    let inverse ← readProgram fuel
    let t ← peek
    let body ← if t.kind = .inverse then do
        let _ ← take
        let b ← readProgram fuel
        pure (some b)
      else pure none
    let closeStrip ← readEnd .endBlock .close (c.head.blockName?.getD "")
    pure (.block opening.pos opening.line c body [] (some inverse) false openStrip closeStrip {})

def readElse : Nat → Reader (Option (List Node) × Bool × Strip)
  | 0 => throw tooDeep
  | fuel + 1 => do
    let t ← peek
    if t.kind = .inverse then
      let _ ← take
      let body ← readProgram fuel
      pure (some body, false, Strip.ofTag t.text)
    else if t.kind = .inverseChain then
      let (opening, c, bound, openStrip) ← readOpening fuel
      let body ← readProgram fuel
      let (inverse, chained, inverseStrip) ← readElse fuel
      pure (some [.block opening.pos opening.line c (some body) bound (closeChain inverse {}) chained
        openStrip {} inverseStrip], true, {})
    else pure (none, false, {})
end

def readTemplate (src : String) : Except SyntaxError (List Node) :=
  let ts := lex src
  let whole : Reader (List Node) := do
    let body ← readProgram (4 * ts.length + 16)
    let t ← take
    if t.kind ≠ .eof then throw (tokenError t "Syntax error")
    pure body
  (whole.run ts).map (·.1)

end MessageTemplate.Handlebars
