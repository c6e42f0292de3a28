import MessageTemplate.Handlebars.Whitespace
import MessageTemplate.Handlebars.Data
import MessageTemplate.Value.Format
import MessageTemplate.Composite.Format
import MessageTemplate.Text.Case
/-! Rendering a parsed handlebars template against data. -/
namespace MessageTemplate.Handlebars

/-- A block being rendered, as its helper sees it: its body, the names the body binds, and its
inverse body. -/
structure OpenBlock where
  body : Option (List Node)
  bound : List String
  inverse : Option (List Node)

/-- Where rendering is: the contexts innermost first, the names bound by blocks, the private
data frames innermost first, and the innermost block. -/
structure Scope where
  contexts : List Value
  bound : List (List (String × Value))
  frames : List (List (String × Value))
  block : Option OpenBlock

/-- Why rendering stopped: an error the engine reports, or a fault that stops the whole
program, such as a block helper reading the block it was not given. -/
inductive Failure where
  | error (message : String)
  | fault (message : String)

def Failure.message : Failure → String
  | .error m | .fault m => m

def nilDereference : Failure :=
  .fault "runtime error: invalid memory address or nil pointer dereference"

/-- Rendering: the node visited last, which evaluation errors name, or the first failure. -/
abbrev Render := StateT String (Except Failure)

def failAt {α : Type} (message : String) : Render α := do
  let node ← get
  throw (.error ("Evaluation error: " ++ message ++ "\nCurrent node:\n\t" ++ node))

def visit (node : String) : Render Unit := set node

def unbracket (part : String) : String :=
  let cs := part.toList
  if cs.length ≥ 2 && cs.head? = some '[' && cs.getLast? = some ']' then
    String.ofList ((cs.drop 1).take (cs.length - 2))
  else part

def followParts : Value → List String → Bool → Except Failure (Option Value × Bool)
  | v, [], found => .ok (some v, found)
  | v, p :: ps, found =>
    match v.field? (unbracket p) with
    | none => .ok (none, found)
    | some .nilFunc =>
      .error (.error ("Helper function must return a string or a SafeString: " ++ unbracket p))
    | some w => followParts w ps true

def isNothing : Option Value → Bool
  | none | some .null => true
  | _ => false

def lookupFrom (contexts : List Value) (parts : List String) : Nat → Nat → Except Failure Value
  | 0, _ => .ok .null
  | fuel + 1, depth =>
    match contexts[depth]? with
    | none => .ok .null
    | some ctx => do
      let (r, found) ← followParts ctx parts false
      if !isNothing r then pure (r.getD .null)
      else if found then pure .null
      else lookupFrom contexts parts fuel (depth + 1)

def boundValue? (bound : List (List (String × Value))) (name : String) : Option Value :=
  match bound.find? (fun m => m.any (·.1 = name)) with
  | some m => (m.reverse.find? (·.1 = name)).map (·.2)
  | none => none

def pathValue (sc : Scope) (pathNode : String) (data : Bool) (depth : Nat) (parts : List String) :
    Render Value := do
  match parts, (parts.head?.bind (boundValue? sc.bound)) with
  | _ :: rest, some v => pure ((← followParts v rest false).1.getD .null)
  | _, _ =>
    if data then
      match sc.frames[depth]? with
      | some frame => pure ((← followParts (.map frame) parts false).1.getD .null)
      | none => pure .null
    else do
      visit pathNode
      lookupFrom sc.contexts parts (sc.contexts.length + 1) depth

/-- What a helper parameter accepts. -/
inductive ArgType where
  | any | text | int | options
deriving DecidableEq

/-- The type name of a helper parameter. -/
def ArgType.name : ArgType → String
  | .any => "interface \x7b\x7d"
  | .text => "string"
  | .int => "int"
  | .options => "*raymond.Options"

def signature? (name : String) : Option (List ArgType) :=
  if name = "if" || name = "unless" || name = "with" || name = "each" then some [.any, .options]
  else if name = "lookup" then some [.any, .text, .options]
  else if name = "equal" then some [.any, .any, .options]
  else if name = "log" || name = "uppercase" || name = "lowercase" || name = "trim" then some [.text]
  else if name = "default" then some [.any, .any]
  else if name = "fmt" then some [.any, .text]
  else if name = "pad" then some [.any, .int]
  else none

def takeArg (name : String) (i : Nat) (t : ArgType) (v : Value) :
    Render (Option Value) :=
  match v, t with
  | .null, .text => pure (some (.str ""))
  | .null, .int => pure none
  | .null, _ => pure (some .null)
  | _, .any => pure (some v)
  | .str _, .text => pure (some v)
  | _, .text =>
    match v.templateText with
    | .ok s => pure (some (.str s))
    | .error e => throw (Failure.error e)
  | .int .int _, .int => pure (some v)
  | _, _ =>
    failAt ("Helper " ++ name ++ " called with argument " ++ toString i ++ " with type " ++
      v.typeName ++ " but it should be " ++ t.name)

def takeArgs (name : String) : List (ArgType × Value) → Nat → Render (Option (List Value))
  | [], _ => pure (some [])
  | (t, v) :: rest, i => do
    match ← takeArg name i t v with
    | none => pure none
    | some a =>
      match ← takeArgs name rest (i + 1) with
      | none => pure none
      | some as => pure (some (a :: as))

def iterationFrame (outer : List (String × Value)) (count i : Nat) (key : Value) :
    List (String × Value) :=
  outer ++ [("index", Value.int .int i), ("key", key), ("first", Value.bool (i = 0)),
    ("last", Value.bool (i + 1 = count))]

def resultText (v : Value) : Render String :=
  match v.templateText with
  | .ok s => pure s
  | .error e => throw (Failure.error e)

def includesZero (params : List Value) (hash : List (String × Value)) : Bool :=
  let flag : Option Value := (hash.reverse.find? (·.1 = "includeZero")).map (·.2)
  match flag, params.head? with
  | some (.bool true), some (.int .int 0) => true
  | _, _ => false

def keyedMembers : Value → List (String × Value)
  | .map kvs => kvs
  | .intMap (some kvs) => kvs.map fun (k, n) => (k, .int .int n)
  | .point x y => [("X", .int .int x), ("Y", .int .int y)]
  | _ => []

def readsOptions (name : String) (args : List Value) : Render Bool := do
  let arg (i : Nat) : Value := args.getD i .null
  if name = "each" then
    let v := arg 0
    pure (!v.truthy || match v.elements? with
      | some xs => !xs.isEmpty
      | none => !(keyedMembers v).isEmpty)
  else if name = "equal" then
    pure ((← resultText (arg 0)) = (← resultText (arg 1)))
  else if name = "lookup" then
    pure (!(arg 0 matches .null) && match arg 1 with
      | .str f => !f.isEmpty
      | _ => false)
  else pure true

mutual
def operandValue : Nat → Scope → Operand → Render Value
  | 0, _, _ => throw (.error "template nested too deeply")
  | fuel + 1, sc, o => do
    visit o.describe
    match o with
    | .path _ _ data _ depth _ parts => pathValue sc o.describe data depth parts
    | .str _ _ v => pure (.str v)
    | .num _ _ x isInt => pure (if isInt then .int .int (wordOfFloat x) else .float .float64 x)
    | .bool _ _ b => pure (.bool b)
    | .sub pos _ head params hash => callValue fuel sc ⟨pos, head, params, hash⟩

def operandValues : Nat → Scope → List Operand → Render (List Value)
  | 0, _, _ => throw (.error "template nested too deeply")
  | _, _, [] => pure []
  | fuel + 1, sc, o :: os => do
    let v ← operandValue fuel sc o
    let vs ← operandValues fuel sc os
    pure (v :: vs)

def hashValues : Nat → Scope → List (String × Operand) → Render (List (String × Value))
  | 0, _, _ => throw (.error "template nested too deeply")
  | _, _, [] => pure []
  | fuel + 1, sc, (k, o) :: rest => do
    let v ← operandValue fuel sc o
    let vs ← hashValues fuel sc rest
    pure ((k, v) :: vs)

def callValue : Nat → Scope → Call → Render Value
  | 0, _, _ => throw (.error "template nested too deeply")
  | fuel + 1, sc, c => do
    visit c.describe
    match c.helperName?.bind fun n => (signature? n).map (n, ·) with
    | some (name, sig) =>
      let params ← operandValues fuel sc c.params
      let hash ← hashValues fuel sc c.hash
      let withOptions := sig.getLast? = some ArgType.options && sig.length = params.length + 1
      if !withOptions && sig.length ≠ params.length then
        failAt ("Helper '" ++ name ++ "' called with wrong number of arguments, needed " ++
          toString sig.length ++ " but got " ++ toString params.length)
      match ← takeArgs name (sig.zip params) 0 with
      | none => pure (.str "")
      | some args =>
        if sig.getLast? = some ArgType.options && !withOptions then
          -- the last parameter stands where the block options go, and is no value
          if ← readsOptions name args then throw nilDereference else pure (.str "")
        else helperValue fuel sc name args params hash
    | none =>
      match c.head.literalText? with
      | some lit =>
        match sc.contexts.head?.bind (·.field? lit) with
        | some v => pure v
        | none => pure .null
      | none =>
        match c.head with
        | .path _ _ data _ depth _ parts => pathValue sc c.head.describe data depth parts
        | _ => pure .null

def helperValue : Nat → Scope → String → List Value → List Value → List (String × Value) →
    Render Value
  | 0, _, _, _, _, _ => throw (.error "template nested too deeply")
  | fuel + 1, sc, name, args, params, hash => do
    let arg (i : Nat) : Value := args.getD i .null
    let text (i : Nat) : String := match arg i with | .str s => s | _ => ""
    if name = "uppercase" then pure (.str (Text.toUpper (text 0)))
    else if name = "lowercase" then pure (.str (Text.toLower (text 0)))
    else if name = "trim" then pure (.str (Text.trimSpace (text 0)))
    else if name = "log" then pure (.str "")
    else if name = "default" then
      match arg 0 with
      | .null => pure (arg 1)
      | .str "" => pure (arg 1)
      | v => pure v
    else if name = "fmt" then
      match (arg 0).formatWith (text 1) with
      | .ok s => pure (.str s)
      | .error _ => pure (.str (arg 0).display)
    else if name = "pad" then
      let shown := (arg 0).display
      let width := match arg 1 with | .int _ w => w | _ => 0
      match Composite.format [Value.str shown] Value.formatWith ("\x7b0," ++ toString width ++ "\x7d") with
      | .ok s => pure (.str s)
      | .error _ => pure (.str shown)
    else if name = "lookup" then
      let found := ((arg 0).field? (text 1)).getD .null
      pure (.str (← resultText found))
    else if name = "equal" then do
      let a ← resultText (arg 0)
      let b ← resultText (arg 1)
      if a = b then blockBody fuel sc .null none none else pure (.str "")
    else if name = "with" then
      if (arg 0).truthy then blockBody fuel sc (arg 0) none none else blockInverse fuel sc
    else if name = "each" then
      let v := arg 0
      if !v.truthy then blockInverse fuel sc
      else
        match v.elements? with
        | some xs => eachElement fuel sc xs.length 0 xs
        | none =>
          let kvs := keyedMembers v
          eachMember fuel sc kvs.length 0 kvs
    else
      let holds := includesZero params hash || (arg 0).truthy
      if (name = "if") = holds then blockBody fuel sc .null none none else blockInverse fuel sc

def blockBody : Nat → Scope → Value → Option (List (String × Value)) → Option Value → Render Value
  | 0, _, _, _, _ => throw (.error "template nested too deeply")
  | fuel + 1, sc, ctx, frame, key =>
    match sc.block with
    | some ⟨some body, bound, _⟩ => do
      let s ← renderProgram fuel sc body bound ctx frame key
      pure (.str s)
    | _ => pure (.str "")

def blockInverse : Nat → Scope → Render Value
  | 0, _ => throw (.error "template nested too deeply")
  | fuel + 1, sc =>
    match sc.block with
    | some ⟨_, _, some inverse⟩ => do
      let s ← renderNodes fuel sc inverse
      pure (.str s)
    | _ => pure (.str "")

def eachElement : Nat → Scope → Nat → Nat → List Value → Render Value
  | 0, _, _, _, _ => throw (.error "template nested too deeply")
  | _, _, _, _, [] => pure (.str "")
  | fuel + 1, sc, count, i, x :: xs => do
    let outer := sc.frames.headD []
    let first ← blockBody fuel sc x (some (iterationFrame outer count i .null)) (some (.int .int i))
    let rest ← eachElement fuel sc count (i + 1) xs
    match first, rest with
    | .str a, .str b => pure (.str (a ++ b))
    | _, _ => pure (.str "")

def eachMember : Nat → Scope → Nat → Nat → List (String × Value) → Render Value
  | 0, _, _, _, _ => throw (.error "template nested too deeply")
  | _, _, _, _, [] => pure (.str "")
  | fuel + 1, sc, count, i, (k, x) :: kvs => do
    let outer := sc.frames.headD []
    let first ← blockBody fuel sc x (some (iterationFrame outer count i (.str k))) (some (.str k))
    let rest ← eachMember fuel sc count (i + 1) kvs
    match first, rest with
    | .str a, .str b => pure (.str (a ++ b))
    | _, _ => pure (.str "")

def renderProgram : Nat → Scope → List Node → List String → Value →
    Option (List (String × Value)) → Option Value → Render String
  | 0, _, _, _, _, _, _ => throw (.error "template nested too deeply")
  | fuel + 1, sc, body, bound, ctx, frame, key => do
    let names := (match bound with | n :: _ => [(n, ctx)] | [] => []) ++
      (match bound, key with | _ :: m :: _, some k => [(m, k)] | _, _ => [])
    let sc : Scope := {
      contexts := if ctx matches .null then sc.contexts else ctx :: sc.contexts
      bound := if names.isEmpty then sc.bound else names :: sc.bound
      frames := match frame with | some f => f :: sc.frames | none => sc.frames
      block := sc.block }
    renderNodes fuel sc body

def renderNodes : Nat → Scope → List Node → Render String
  | 0, _, _ => throw (.error "template nested too deeply")
  | _, _, [] => pure ""
  | fuel + 1, sc, n :: ns => do
    let a ← renderNode fuel sc n
    let b ← renderNodes fuel sc ns
    pure (a ++ b)

def renderNode : Nat → Scope → Node → Render String
  | 0, _, _ => throw (.error "template nested too deeply")
  | fuel + 1, sc, n =>
    match n with
    | .content _ _ _ value .. => pure value
    | .comment .. => pure ""
    | .mustache _ _ c raw _ => do
      let v ← callValue fuel sc c
      let s ← resultText v
      pure (if raw then s else escapeHtml s)
    | .partialCall pos _ name _ _ => do
      visit (partialText pos name)
      let shown ← match name with
        | .sub p _ head params hash => do
          let v ← callValue fuel sc ⟨p, head, params, hash⟩
          resultText v
        | .path _ _ _ original .. => pure original
        | o => pure (o.literalText?.getD "")
      failAt ("Partial not found: " ++ shown)
    | .block _ _ c body bound inverse .. => do
      let sc := { sc with block := some ⟨body, bound, inverse⟩ }
      let isHelper := (c.helperName?.bind signature?).isSome
      let v ← callValue fuel sc c
      if isHelper then resultText v
      else if !v.truthy then
        match inverse with
        | some inv => renderNodes fuel sc inv
        | none => pure ""
      else
        match body, v.elements? with
        | none, _ => pure ""
        | some b, some xs => blockElements fuel sc b bound xs.length 0 xs
        | some b, none => renderProgram fuel sc b bound v none none

def blockElements : Nat → Scope → List Node → List String → Nat → Nat → List Value →
    Render String
  | 0, _, _, _, _, _, _ => throw (.error "template nested too deeply")
  | _, _, _, _, _, _, [] => pure ""
  | fuel + 1, sc, body, bound, count, i, x :: xs => do
    let outer := sc.frames.headD []
    let a ← renderProgram fuel sc body bound x (some (iterationFrame outer count i .null))
      (some (.int .int i))
    let b ← blockElements fuel sc body bound count (i + 1) xs
    pure (a ++ b)
end

def renderWith (body : List Node) (data : Value) (fuel : Nat) : Except Failure String :=
  let sc : Scope := ⟨if data matches .null then [] else [data], [], [[]], none⟩
  ((renderNodes fuel sc body).run "").map (·.1)

def renderTemplate (src : String) (data : Value) : Except Failure String :=
  match parseTemplate src with
  | .error e => .error (.error ("failed to compile template: parse error: " ++ e.text))
  | .ok body =>
    match renderWith body data (8 * src.length + 64) with
    | .ok s => .ok s
    | .error (.error e) => .error (.error ("template execution failed: " ++ e))
    | .error f => .error f

def checkTemplate (src : String) : Except String Unit :=
  match parseTemplate src with
  | .error e => .error e.text
  | .ok _ => .ok ()

end MessageTemplate.Handlebars
