import MessageTemplate.Condition.Evaluator
import MessageTemplate.Numeric.Parse
/-! Choosing the template to render among a base template and variants guarded by conditions. -/
namespace MessageTemplate

/-- A variant: a condition and the template used when it holds. -/
structure Variant where
  condition : String
  template : String
deriving Repr, Inhabited

/-- What a choice is made over. -/
structure SelectInput where
  template : String
  names : List String
  values : List Value
  variants : List Variant

/-- How a template was chosen. -/
inductive Path where
  | base
  | variant
  | fallback
  | disabled
deriving DecidableEq, Repr

def Path.name : Path → String
  | .base => "base"
  | .variant => "variant"
  | .fallback => "fallback"
  | .disabled => "disabled"

/-- The chosen template, the index of the variant (-1 for none), why, and how. -/
structure Selection where
  template : String
  variant : Int
  reasoning : String
  path : Path
deriving Repr

namespace Value

mutual
/-- A value as conditions see it: JSON numbers read as integers or floats, and plain integers
as 64-bit ones, through decoded arrays and objects. -/
def forCondition : Value → Value
  | .number lit =>
    match Numeric.readSigned 64 lit with
    | .ok i => .int .int64 i
    | .error _ =>
      match Numeric.readFloat FloatFormat.double lit with
      | .ok x => .float .float64 x
      | .error _ => .str lit
  | .int .int v => .int .int64 v
  | .slice xs => .slice (forConditionAll xs)
  | .map kvs => .map (forConditionMembers kvs)
  | v => v

def forConditionAll : List Value → List Value
  | [] => []
  | v :: vs => forCondition v :: forConditionAll vs

def forConditionMembers : List (String × Value) → List (String × Value)
  | [] => []
  | (k, v) :: kvs => (k, forCondition v) :: forConditionMembers kvs
end

end Value

/-- The variables conditions are evaluated with. -/
def conditionVars (input : SelectInput) : Condition.Activation :=
  let bound := input.names.zipIdx.map fun (name, i) =>
    (name, (input.values[i]?.map Value.forCondition).getD .null)
  [("values", .map (canonicalMembers bound)), ("template", .str input.template)]

/-- The first problem of an input's variants. -/
def checkVariants (variants : List Variant) : Except String Unit :=
  match (variants.zipIdx.find? fun (v, _) => v.condition.isEmpty || v.template.isEmpty) with
  | some (v, i) =>
    if v.condition.isEmpty then .error ("variant " ++ toString i ++ ": condition is required")
    else .error ("variant " ++ toString i ++ ": template is required")
  | none => .ok ()

/-- The first variant, from index `i`, whose condition holds, conditions valued by `value`. -/
def firstMatch (value : String → Condition.Activation → Except String Condition.CelVal)
    (vars : Condition.Activation) : List Variant → Nat → Option (Variant × Nat)
  | [], _ => none
  | v :: vs, i =>
    match Condition.evaluateBool v.condition vars value with
    | .ok true => some (v, i)
    | _ => firstMatch value vars vs (i + 1)

/-- Choose the template for an input, conditions valued by `value` (the condition evaluator
unless another is given); with conditions disabled, variants are ignored. -/
def select (enabled : Bool) (input : Option SelectInput)
    (value : String → Condition.Activation → Except String Condition.CelVal :=
      Condition.evaluate) : Except String Selection :=
  match input with
  | none => .error "invalid input: input is nil"
  | some input =>
    match checkVariants input.variants with
    | .error e => .error ("invalid input: " ++ e)
    | .ok () =>
      if input.variants.isEmpty then
        .ok ⟨input.template, -1, "no variants configured", .base⟩
      else if !enabled then
        .ok ⟨input.template, -1, "variant evaluation disabled", .disabled⟩
      else
        match firstMatch value (conditionVars input) input.variants 0 with
        | some (v, i) =>
          .ok ⟨v.template, i, "matched variant " ++ toString i ++ ": " ++ v.condition, .variant⟩
        | none => .ok ⟨input.template, -1, "no variants matched", .fallback⟩

end MessageTemplate
