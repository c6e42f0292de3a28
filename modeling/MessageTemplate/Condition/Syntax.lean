import MessageTemplate.Numeric.Binary
/-! The syntax tree of conditions. -/
namespace MessageTemplate.Condition

/-- A literal constant. -/
inductive Literal where
  | null
  | bool (b : Bool)
  | int (v : Int)
  | uint (v : Nat)
  | double (x : Binary)
  | string (s : String)
  | bytes (bs : List Nat)
deriving Repr, Inhabited

/-- The comprehension macros over a list or the keys of a map. -/
inductive Macro where
  | all
  | any
  | one
  | map
  | filter
deriving DecidableEq, Repr, Inhabited

/-- An expression, each node with the offset it is reported at. -/
inductive Expr where
  | lit (pos : Nat) (l : Literal)
  | ident (pos : Nat) (name : String)
  | select (pos : Nat) (operand : Expr) (field : String)
  | test (pos : Nat) (operand : Expr) (field : String)
  | call (pos : Nat) (fn : String) (args : List Expr)
  | method (pos : Nat) (fn : String) (target : Expr) (args : List Expr)
  | list (pos : Nat) (items : List Expr)
  | map (pos : Nat) (entries : List (Expr × Expr))
  | fold (pos : Nat) (m : Macro) (range : Expr) (var : String) (args : List Expr)
  | message (pos : Nat) (name : String) (fields : List (String × Expr))
deriving Repr, Inhabited

namespace Expr

/-- The offset a node is reported at. -/
def pos : Expr → Nat
  | .lit p _ | .ident p _ | .select p _ _ | .test p _ _ | .call p _ _ | .method p _ _ _
  | .list p _ | .map p _ | .fold p _ _ _ _ | .message p _ _ => p

def dottedName? : Expr → Option String
  | .ident _ n => some n
  | .select _ operand field => operand.dottedName?.map (· ++ "." ++ field)
  | _ => none

end Expr

def reservedWords : List String :=
  ["as", "break", "const", "continue", "else", "for", "function", "if", "import", "let", "loop",
    "package", "namespace", "return", "var", "void", "while"]

end MessageTemplate.Condition
