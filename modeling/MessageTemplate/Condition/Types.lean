/-! The static types of conditions, with type variables for generic overloads. -/
namespace MessageTemplate.Condition

/-- A static type. -/
inductive CelType where
  | dyn
  | null
  | bool
  | int
  | uint
  | double
  | string
  | bytes
  | timestamp
  | duration
  | list (elem : CelType)
  | map (key value : CelType)
  | type (t : CelType)
  | var (n : Nat)
  | error
deriving DecidableEq, Repr, Inhabited

namespace CelType

/-- The name of a type as messages write it. -/
def name : CelType → String
  | .dyn => "dyn"
  | .null => "null_type"
  | .bool => "bool"
  | .int => "int"
  | .uint => "uint"
  | .double => "double"
  | .string => "string"
  | .bytes => "bytes"
  | .timestamp => "google.protobuf.Timestamp"
  | .duration => "google.protobuf.Duration"
  | .list e => "list(" ++ e.name ++ ")"
  | .map k v => "map(" ++ k.name ++ ", " ++ v.name ++ ")"
  | .type t => "type(" ++ t.name ++ ")"
  | .var n => "_var" ++ toString n
  | .error => "*error*"

def isDynOrError : CelType → Bool
  | .dyn | .error => true
  | _ => false

def isNullable : CelType → Bool
  | .timestamp | .duration => true
  | _ => false

def shift (k : Nat) : CelType → CelType
  | .list e => .list (e.shift k)
  | .map a b => .map (a.shift k) (b.shift k)
  | .type t => .type (t.shift k)
  | .var n => .var (n + k)
  | t => t

def mentions (n : Nat) : CelType → Bool
  | .list e => e.mentions n
  | .map a b => a.mentions n || b.mentions n
  | .type t => t.mentions n
  | .var m => m = n
  | _ => false

end CelType

/-- What a global name that is not a variable stands for. -/
inductive GlobalName where
  | type (t : CelType) (runtimeName : String)
  | unregistered
  | constant (v : Int)
deriving DecidableEq, Repr

namespace GlobalName

def unregisteredMessages : List String :=
  ["BoolValue", "BytesValue", "DoubleValue", "FloatValue", "Int32Value", "Int64Value",
    "UInt32Value", "UInt64Value", "StringValue", "ListValue", "Struct", "Value"].map
    ("google.protobuf." ++ ·)

/-- The meaning of a global name written without a leading dot. -/
def find? (name : String) : Option GlobalName :=
  let simple : List (String × CelType) :=
    [("bool", .bool), ("bytes", .bytes), ("double", .double), ("int", .int),
      ("list", .list .dyn), ("map", .map .dyn .dyn), ("null_type", .null), ("string", .string),
      ("type", .type .dyn), ("uint", .uint), ("google.protobuf.Duration", .duration),
      ("google.protobuf.Timestamp", .timestamp)]
  match simple.lookup name with
  | some t => some (.type (.type t) name)
  | none =>
    if name = "google.protobuf.Any" || name = "google.protobuf.Empty" then
      some (.type (.type .dyn) name)
    else if unregisteredMessages.contains name then some .unregistered
    else if name = "google.protobuf.NullValue.NULL_VALUE" then some (.constant 0)
    else none

def checkedType : GlobalName → CelType
  | .type t _ => t
  | .unregistered => .type .dyn
  | .constant _ => .int

end GlobalName

def withoutLeadingDot (name : String) : String :=
  if name.startsWith "." then String.ofList (name.toList.drop 1) else name

abbrev Subst := List (Nat × CelType)

def substitute (s : Subst) (close : Bool) (fuel : Nat) (t : CelType) : CelType :=
  match fuel with
  | 0 => t
  | fuel + 1 =>
    match t with
    | .list e => .list (substitute s close fuel e)
    | .map a b => .map (substitute s close fuel a) (substitute s close fuel b)
    | .type u => .type (substitute s close fuel u)
    | .var n =>
      match s.lookup n with
      | some u => substitute s close fuel u
      | none => if close then .dyn else .var n
    | t => t

def lessSpecific : CelType → CelType → Bool
  | .dyn, _ | .var _, _ => true
  | _, .dyn | _, .var _ => false
  | .list a, .list b => lessSpecific a b
  | .map a b, .map c d => lessSpecific a c && lessSpecific b d
  | a, b => a = b

def mostGeneral (a b : CelType) : CelType := if lessSpecific a b then a else b

def notReferencedIn (s : Subst) (n : Nat) (t : CelType) (fuel : Nat) : Bool :=
  t ≠ .var n && !(substitute s false fuel t).mentions n

mutual
def assignable (fuel : Nat) (s : Subst) (t1 t2 : CelType) : Option Subst :=
  match fuel with
  | 0 => none
  | fuel + 1 =>
    if t1 = t2 then some s
    else
      let fromParam : Option (Option Subst) :=
        match t2 with
        | .var n =>
          match validSubstitution fuel s t1 n with
          | (some s', _) => some (some s')
          | (none, true) => some none
          | (none, false) => none
        | _ => none
      match fromParam with
      | some r => r
      | none =>
        match t1 with
        | .var n => (validSubstitution fuel s t2 n).1
        | _ =>
          if t1.isDynOrError || t2.isDynOrError then some s
          else if t1 = .null then (if t2.isNullable then some s else none)
          else if t2 = .null then (if t1.isNullable then some s else none)
          else
            match t1, t2 with
            | .list a, .list b => assignable fuel s a b
            | .map a b, .map c d => do
              let s ← assignable fuel s a c
              assignable fuel s b d
            | .type _, .type _ => some s
            | _, _ => none

def validSubstitution (fuel : Nat) (s : Subst) (t : CelType) (n : Nat) : Option Subst × Bool :=
  match fuel with
  | 0 => (none, false)
  | fuel + 1 =>
    if t = .var n then (some s, true)
    else
      match s.lookup n with
      | some sub =>
        if t = sub then (some s, true)
        else
          match assignable fuel s t sub with
          | some s' =>
            let general := mostGeneral t sub
            if notReferencedIn s' n general fuel then
              (some ((n, general) :: s'.filter (·.1 != n)), true)
            else (some s', true)
          | none => (none, true)
      | none =>
        if notReferencedIn s n t fuel then (some ((n, t) :: s), false) else (none, false)
end

def assignableList (fuel : Nat) (s : Subst) : List CelType → List CelType → Option Subst
  | [], [] => some s
  | a :: as, p :: ps => do
    let s ← assignable fuel s a p
    assignableList fuel s as ps
  | _, _ => none

end MessageTemplate.Condition
