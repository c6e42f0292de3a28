import MessageTemplate.Condition.Syntax
import MessageTemplate.Condition.Types
import MessageTemplate.Condition.Parse
/-! The type checker of conditions. -/
namespace MessageTemplate.Condition

/-- One overload of a function: whether it is called on a receiver (the first parameter), its
parameter types and its result type, over type variables 0 and 1. -/
structure Overload where
  receiver : Bool
  params : List CelType
  result : CelType

/-- A global overload. -/
def global (params : List CelType) (result : CelType) : Overload := ⟨false, params, result⟩

def onReceiver (params : List CelType) (result : CelType) : Overload := ⟨true, params, result⟩

def tyA : CelType := .var 0
def tyB : CelType := .var 1

def orderings : List Overload :=
  [[.bool, .bool], [.int, .int], [.int, .double], [.int, .uint], [.uint, .uint], [.uint, .double],
    [.uint, .int], [.double, .double], [.double, .int], [.double, .uint], [.string, .string],
    [.bytes, .bytes], [.timestamp, .timestamp], [.duration, .duration]].map (global · .bool)

/-- The overloads of the arithmetic operators on the three number types. -/
def arithmetic : List Overload :=
  [global [.int, .int] .int, global [.uint, .uint] .uint, global [.double, .double] .double]

def timestampAccessors : List String :=
  ["getFullYear", "getMonth", "getDayOfYear", "getDayOfMonth", "getDate", "getDayOfWeek",
    "getHours", "getMinutes", "getSeconds", "getMilliseconds"]

def overloadsOf (fn : String) : List Overload :=
  if fn = "_+_" then
    arithmetic ++ [global [.string, .string] .string, global [.bytes, .bytes] .bytes,
      global [.list tyA, .list tyA] (.list tyA), global [.timestamp, .duration] .timestamp,
      global [.duration, .timestamp] .timestamp, global [.duration, .duration] .duration]
  else if fn = "_-_" then
    arithmetic ++ [global [.timestamp, .timestamp] .duration,
      global [.timestamp, .duration] .timestamp, global [.duration, .duration] .duration]
  else if fn = "_*_" || fn = "_/_" then arithmetic
  else if fn = "_%_" then [global [.int, .int] .int, global [.uint, .uint] .uint]
  else if fn = "-_" then [global [.int] .int, global [.double] .double]
  else if fn = "!_" then [global [.bool] .bool]
  else if fn = "_&&_" || fn = "_||_" then [global [.bool, .bool] .bool]
  else if fn = "_?_:_" then [global [.bool, tyA, tyA] tyA]
  else if fn = "_==_" || fn = "_!=_" then [global [tyA, tyA] .bool]
  else if fn = "_<_" || fn = "_<=_" || fn = "_>_" || fn = "_>=_" then orderings
  else if fn = "@in" then [global [tyA, .list tyA] .bool, global [tyA, .map tyA tyB] .bool]
  else if fn = "_[_]" then [global [.list tyA, .int] tyA, global [.map tyA tyB, tyA] tyB]
  else if fn = "size" then
    [global [.string] .int, global [.bytes] .int, global [.list tyA] .int,
      global [.map tyA tyB] .int, onReceiver [.string] .int, onReceiver [.bytes] .int,
      onReceiver [.list tyA] .int, onReceiver [.map tyA tyB] .int]
  else if fn = "contains" || fn = "startsWith" || fn = "endsWith" then
    [onReceiver [.string, .string] .bool]
  else if fn = "matches" then [global [.string, .string] .bool, onReceiver [.string, .string] .bool]
  else if fn = "int" then
    [.int, .uint, .double, .string, .timestamp, .duration].map (global [·] .int)
  else if fn = "uint" then [.uint, .int, .double, .string].map (global [·] .uint)
  else if fn = "double" then [.double, .int, .uint, .string].map (global [·] .double)
  else if fn = "string" then
    [.string, .int, .uint, .double, .bytes, .bool, .timestamp, .duration].map (global [·] .string)
  else if fn = "bytes" then [.bytes, .string].map (global [·] .bytes)
  else if fn = "bool" then [.bool, .string].map (global [·] .bool)
  else if fn = "dyn" then [global [tyA] .dyn]
  else if fn = "type" then [global [tyA] (.type tyA)]
  else if fn = "duration" then
    [global [.duration] .duration, global [.int] .duration, global [.string] .duration]
  else if fn = "timestamp" then
    [global [.timestamp] .timestamp, global [.string] .timestamp, global [.int] .timestamp]
  else if timestampAccessors.contains fn then
    [onReceiver [.timestamp] .int, onReceiver [.timestamp, .string] .int] ++
      (if fn = "getHours" || fn = "getMinutes" || fn = "getSeconds" || fn = "getMilliseconds"
        then [onReceiver [.duration] .int] else [])
  else []

def declared : List (String × CelType) := [("values", .map .string .dyn), ("template", .string)]

/-- The state of a check: the next fresh variable, the bindings and the errors so far. -/
structure CheckState where
  next : Nat
  subst : Subst
  errors : List Diagnostic

abbrev CheckM := StateM CheckState

def typeFuel : Nat := 64

def report (pos : Nat) (message : String) : CheckM Unit :=
  modify fun s => { s with errors := s.errors ++ [⟨pos, message⟩] }

def fresh : CheckM CelType := do
  let s ← get
  set { s with next := s.next + 1 }
  pure (.var s.next)

/-- A type with the current bindings applied. -/
def resolved (t : CelType) : CheckM CelType := do
  pure (substitute (← get).subst false typeFuel t)

/-- Whether an argument type agrees with a parameter type; the bindings are kept when so. -/
def agrees (t1 t2 : CelType) : CheckM Bool := do
  let s ← get
  match assignable typeFuel s.subst t1 t2 with
  | some sub => set { s with subst := sub }; pure true
  | none => pure false

def signatureText (receiver : Bool) (args : List CelType) : String :=
  match receiver, args with
  | true, r :: rest => r.name ++ ".(" ++ ", ".intercalate (rest.map CelType.name) ++ ")"
  | _, _ => "(" ++ ", ".intercalate (args.map CelType.name) ++ ")"

def resolveCall (pos : Nat) (fn : String) (receiver : Bool) (args : List CelType) :
    CheckM CelType := do
  let overloads := overloadsOf fn
  if overloads.isEmpty then
    report pos ("undeclared reference to '" ++ fn ++ "' (in container '')")
    pure .error
  else
    let mut result : Option CelType := none
    for o in overloads do
      if o.receiver = receiver && o.params.length = args.length then
        let base := (← get).next
        modify fun s => { s with next := s.next + 2 }
        let params := o.params.map (·.shift base)
        let s ← get
        match assignableList typeFuel s.subst args params with
        | some sub =>
          set { s with subst := sub }
          let r := substitute sub false typeFuel (o.result.shift base)
          result := match result with
            | none => some r
            | some prev => if prev = .dyn || prev = r then some prev else some .dyn
        | none => pure ()
    match result with
    | some r => pure r
    | none =>
      let s ← get
      let shown := args.map (substitute s.subst true typeFuel)
      report pos ("found no matching overload for '" ++ fn ++ "' applied to '" ++
        signatureText receiver shown ++ "'")
      pure .error

def selectType (pos : Nat) (t : CelType) : CheckM CelType := do
  match t with
  | .map _ v => pure v
  | .var _ => let _ ← agrees .dyn t; pure .dyn
  | _ =>
    if !t.isDynOrError then
      report pos ("type '" ++ t.name ++ "' does not support field selection")
    pure .dyn

def logicalType : List (Nat × CelType) → CheckM CelType
  | [] => pure .bool
  | (pos, t) :: rest => do
    let fine ← agrees t .bool
    if !fine then
      report pos ("expected type 'bool' but found '" ++ (← resolved t).name ++ "'")
    let r ← logicalType rest
    pure (if fine then r else .error)

def rangeElement (pos : Nat) (t : CelType) : CheckM CelType := do
  match t with
  | .list e => pure e
  | .map k _ => pure k
  | .dyn | .error => pure .dyn
  | .var _ => pure .dyn
  | _ =>
    report pos ("expression of type '" ++ t.name ++
      "' cannot be range of a comprehension (must be list, map, or dynamic)")
    pure .dyn

def joinTypes (prev : Option CelType) (t : CelType) : CheckM CelType := do
  match prev with
  | none => pure t
  | some p => if ← agrees p t then pure (mostGeneral p t) else pure .dyn

mutual
def typeOf (fuel : Nat) (scope : List (String × CelType)) (e : Expr) : CheckM CelType :=
  match fuel with
  | 0 => pure .error
  | fuel + 1 =>
    match e with
    | .lit _ l =>
      pure (match l with
        | .null => .null | .bool _ => .bool | .int _ => .int | .uint _ => .uint
        | .double _ => .double | .string _ => .string | .bytes _ => .bytes)
    | .ident pos written =>
      let name := withoutLeadingDot written
      match scope.lookup name with
      | some t => pure t
      | none =>
        match declared.lookup name with
        | some t => pure t
        | none =>
          match GlobalName.find? name with
          | some g => pure g.checkedType
          | none =>
            do
              report pos ("undeclared reference to '" ++ written ++ "' (in container '')")
              pure .error
    | .select pos operand _ => do
      let t ← typeOf fuel scope operand
      selectType pos (← resolved t)
    | .test pos operand _ => do
      let t ← typeOf fuel scope operand
      let _ ← selectType pos (← resolved t)
      pure .bool
    | .call pos fn args => do
      let ts ← typesOf fuel scope args
      if fn = "_&&_" || fn = "_||_" then logicalType ((args.map (·.pos)).zip ts)
      else resolveCall pos fn false ts
    | .method pos fn target args => do
      let t ← typeOf fuel scope target
      let ts ← typesOf fuel scope args
      resolveCall pos fn true (t :: ts)
    | .list _ items => do
      let ts ← typesOf fuel scope items
      let mut elem : Option CelType := none
      for t in ts do
        elem := some (← joinTypes elem t)
      match elem with
      | some t => pure (.list t)
      | none => pure (.list (← fresh))
    | .map _ entries => do
      let ks ← typesOf fuel scope (entries.map (·.1))
      let vs ← typesOf fuel scope (entries.map (·.2))
      let mut key : Option CelType := none
      for t in ks do
        key := some (← joinTypes key t)
      let mut val : Option CelType := none
      for t in vs do
        val := some (← joinTypes val t)
      let k ← match key with | some t => pure t | none => fresh
      let v ← match val with | some t => pure t | none => fresh
      pure (.map k v)
    | .fold pos m range var args => do
      let rt ← typeOf fuel scope range
      let elem ← rangeElement range.pos (← resolved rt)
      let inner := (var, elem) :: scope
      let ts ← typesOf fuel inner args
      match m, ts with
      | .all, [p] | .any, [p] =>
        let _ ← logicalType ((args.map (·.pos)).zip [p])
        pure .bool
      | .one, [p] => let _ ← resolveCall pos "_?_:_" false [p, .int, .int]; pure .bool
      | .filter, [p] =>
        let _ ← resolveCall pos "_?_:_" false [p, .list elem, .list elem]
        pure (.list elem)
      | .map, [t] => pure (.list t)
      | .map, [p, t] =>
        let _ ← resolveCall pos "_?_:_" false [p, .list t, .list t]
        pure (.list t)
      | _, _ => pure .error
    | .message pos name _ => do
      report pos ("undeclared reference to '" ++ name ++ "' (in container '')")
      pure .error

def typesOf (fuel : Nat) (scope : List (String × CelType)) : List Expr → CheckM (List CelType)
  | [] => pure []
  | e :: es => do
    let t ← typeOf fuel scope e
    let ts ← typesOf fuel scope es
    pure (t :: ts)
end

mutual
def resolveNames : Expr → Expr
  | .select pos operand field =>
    match (Expr.select pos operand field).dottedName? with
    | some n =>
      if (GlobalName.find? (withoutLeadingDot n)).isSome then .ident pos n
      else .select pos (resolveNames operand) field
    | none => .select pos (resolveNames operand) field
  | .test pos operand field => .test pos (resolveNames operand) field
  | .call pos fn args => .call pos fn (resolveAll args)
  | .method pos fn target args => .method pos fn (resolveNames target) (resolveAll args)
  | .list pos items => .list pos (resolveAll items)
  | .map pos entries => .map pos (resolveEntries entries)
  | .fold pos m range var args => .fold pos m (resolveNames range) var (resolveAll args)
  | e => e

def resolveAll : List Expr → List Expr
  | [] => []
  | e :: es => resolveNames e :: resolveAll es

def resolveEntries : List (Expr × Expr) → List (Expr × Expr)
  | [] => []
  | (k, v) :: rest => (resolveNames k, resolveNames v) :: resolveEntries rest
end

mutual
def undefinedType? : Expr → Option String
  | .ident _ n =>
    match GlobalName.find? (withoutLeadingDot n) with
    | some .unregistered => some (withoutLeadingDot n)
    | _ => none
  | .select _ operand _ | .test _ operand _ => undefinedType? operand
  | .call _ _ args | .list _ args => firstUndefined args
  | .method _ _ target args => (undefinedType? target).orElse fun _ => firstUndefined args
  | .map _ entries => firstUndefinedEntry entries
  | .fold _ _ range _ args => (undefinedType? range).orElse fun _ => firstUndefined args
  | .lit _ _ | .message _ _ _ => none

def firstUndefined : List Expr → Option String
  | [] => none
  | e :: es => (undefinedType? e).orElse fun _ => firstUndefined es

def firstUndefinedEntry : List (Expr × Expr) → Option String
  | [] => none
  | (k, v) :: rest =>
    ((undefinedType? k).orElse fun _ => undefinedType? v).orElse fun _ => firstUndefinedEntry rest
end

/-- The type of a condition, with free variables closed to `dyn`, and the errors found. -/
def check (e : Expr) : CelType × List Diagnostic :=
  let (t, s) := (typeOf 512 [] e).run ⟨2, [], []⟩
  (substitute s.subst true typeFuel t, s.errors)

end MessageTemplate.Condition
