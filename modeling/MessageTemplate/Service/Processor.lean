import MessageTemplate.Service.Request
import MessageTemplate.Template.Cache
import MessageTemplate.Template.Pairs
import MessageTemplate.Template.Coerce
import MessageTemplate.Handlebars.Render
/-! Processing format requests with the engines the processor is given. -/
namespace MessageTemplate.Service

/-- The template languages a request can use. -/
inductive Language where
  | named
  | handlebars
deriving DecidableEq, Repr

/-- The name of a template language. -/
def Language.name : Language → String
  | .named => "named"
  | .handlebars => "handlebars"

/-- The engines a processor calls: the condition language's check (a condition compiles to a
truth value) and evaluator, and the handlebars implementation's check (a template parses) and
renderer (the output, or the engine's error message). -/
structure Engines where
  validate : String → Except String Unit
  evaluate : String → Condition.Activation → Except String Condition.CelVal
  checkTemplate : String → Except String Unit
  render : String → Value → Except String String

/-- The engines of this library: its condition language and its handlebars implementation. -/
def Engines.builtin : Engines where
  validate := Condition.validate
  evaluate := Condition.evaluate
  checkTemplate := Handlebars.checkTemplate
  render src data := (Handlebars.renderTemplate src data).mapError Handlebars.Failure.message

/-- How a processor is set up. -/
structure Options where
  conditionsEnabled : Bool := true
  handlebarsEnabled : Bool := true
  maxTemplateLength : Int := 65536

/-- A processor: its options and its cache of compiled templates. -/
structure Processor where
  options : Options
  cache : Cache

/-- A rendered request. -/
structure Rendered where
  requestId : String
  output : String
  originalFormat : String
  valueNames : List String
  pairs : List Pair
  language : Language
  variant : Int
  path : Path
  reasoning : String

def Processor.languages (p : Processor) : List Language :=
  if p.options.handlebarsEnabled then [.named, .handlebars] else [.named]

def Processor.cachedTemplates (p : Processor) : Nat := p.cache.size

/-- The length of a text in bytes. -/
def byteLength (s : String) : Int := s.utf8ByteSize

/-- The first problem of a variant's template length or condition. -/
def checkVariant (E : Engines) (o : Options) (v : Variant) (i : Nat) : Except String Unit :=
  if byteLength v.template > o.maxTemplateLength then
    .error ("variant " ++ toString i ++ ": template length " ++ toString (byteLength v.template) ++
      " exceeds limit " ++ toString o.maxTemplateLength)
  else if v.condition.isEmpty then .error ("variant " ++ toString i ++ ": condition is required")
  else if o.conditionsEnabled then
    match E.validate v.condition with
    | .ok () => .ok ()
    | .error e => .error ("variant " ++ toString i ++ ": invalid condition: " ++ e)
  else .ok ()

def checkHandlebars (E : Engines) (r : Request) : Except String Unit := do
  match E.checkTemplate r.template with
  | .error e => throw ("invalid handlebars template: " ++ e)
  | .ok () => pure ()
  for (v, i) in r.variants.zipIdx do
    match E.checkTemplate v.template with
    | .error e => throw ("variant " ++ toString i ++ ": invalid handlebars template: " ++ e)
    | .ok () => pure ()

/-- The first problem of a request. -/
def checkRequest (E : Engines) (o : Options) (r : Request) : Except String Unit := do
  if r.requestId.isEmpty then throw "request_id is required"
  if byteLength r.template > o.maxTemplateLength then
    throw ("template length " ++ toString (byteLength r.template) ++ " exceeds limit " ++
      toString o.maxTemplateLength)
  for (v, i) in r.variants.zipIdx do
    checkVariant E o v i
  if r.language = "handlebars" && o.handlebarsEnabled then checkHandlebars E r

/-- Values given for one list of names bound to another list of names by name; a name without
a value gets no value. -/
def rebind (fromNames toNames : List String) (values : List Value) : List Value :=
  let byName := fromNames.zipIdx.filterMap fun (n, i) => values[i]?.map (n, ·)
  toNames.map fun n => ((byName.reverse.find? (·.1 = n)).map (·.2)).getD .null

/-- Render a request in the named-placeholder language. -/
def renderNamed (E : Engines) (o : Options) (cache : Cache) (r : Request) :
    Except String Rendered × Cache :=
  let (base, cache) := cache.get r.template
  match select o.conditionsEnabled (some ⟨r.template, base.template.names, r.values, r.variants⟩)
      E.evaluate with
  | .error e => (.error ("variant selection failed: " ++ e), cache)
  | .ok sel =>
    let (chosen, cache) := cache.get sel.template
    let values := if sel.variant ≥ 0 then rebind base.template.names chosen.template.names r.values
      else r.values
    let bound : Bound := ⟨chosen.template, values⟩
    match bound.render with
    | .error e => (.error ("render failed: " ++ e.message), cache)
    | .ok output =>
      (.ok ⟨r.requestId, output, chosen.template.original, chosen.template.names, bound.pairs,
        .named, sel.variant, sel.path, sel.reasoning⟩, cache)

/-- The data a handlebars template sees: each name bound to its coerced value, no value
staying no value, and `OriginalFormat` bound to the chosen template. -/
def handlebarsData (names : List String) (values : List Value) (chosen : String) : Value :=
  let bound := names.zipIdx.map fun (n, i) =>
    let v := values.getD i .null
    (n, if v matches .null then Value.null else v.coerce)
  .map (canonicalMembers (bound ++ [("OriginalFormat", .str chosen)]))

/-- Render a request in the handlebars language. -/
def renderHandlebars (E : Engines) (o : Options) (r : Request) : Except String Rendered := do
  if !o.handlebarsEnabled then throw "handlebars syntax is disabled"
  if r.values.length > r.names.length then
    throw (toString r.values.length ++ " values supplied for " ++ toString r.names.length ++ " names")
  let sel ← match select o.conditionsEnabled (some ⟨r.template, r.names, r.values, r.variants⟩)
      E.evaluate with
    | .error e => throw ("variant selection failed: " ++ e)
    | .ok s => pure s
  let pairs := (r.names.zipIdx.map fun (n, i) => (⟨n, r.values.getD i .null⟩ : Pair)) ++
    [⟨originalFormatKey, .str sel.template⟩]
  let output ← match E.render sel.template (handlebarsData r.names r.values sel.template) with
    | .error e => throw ("render failed: " ++ e)
    | .ok s => pure s
  pure ⟨r.requestId, output, sel.template, r.names, pairs, .handlebars, sel.variant, sel.path,
    sel.reasoning⟩

/-- Process a request (none for a missing one): its rendering or why it failed, and the
processor afterwards. -/
def Processor.process (E : Engines) (p : Processor) (req : Option Request) :
    Except String Rendered × Processor :=
  match req with
  | none => (.error "invalid request: request is nil", p)
  | some r =>
    match checkRequest E p.options r with
    | .error e => (.error ("invalid request: " ++ e), p)
    | .ok () =>
      if r.language.isEmpty || r.language = "named" then
        let (res, cache) := renderNamed E p.options p.cache r
        (res, { p with cache := cache })
      else if r.language = "handlebars" then (renderHandlebars E p.options r, p)
      else (.error ("unknown syntax: " ++ r.language), p)

end MessageTemplate.Service
