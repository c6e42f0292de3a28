import MessageTemplate.Json.Parse
import MessageTemplate.Selection.Select
import MessageTemplate.Unicode.Case
/-! Format requests and how they are read from a message. -/
namespace MessageTemplate

namespace Json

mutual
/-- A document as a decoder into maps keeps it: every object with each key once, the last
value winning, in key order. -/
def canonical : Json → Json
  | .arr xs => .arr (canonicalAll xs)
  | .obj kvs => .obj (canonicalMembers (canonicalPairs kvs))
  | j => j

def canonicalAll : List Json → List Json
  | [] => []
  | x :: xs => canonical x :: canonicalAll xs

def canonicalPairs : List (String × Json) → List (String × Json)
  | [] => []
  | (k, v) :: kvs => (k, canonical v) :: canonicalPairs kvs
end

def kindName : Json → String
  | .null => "null"
  | .bool _ => "bool"
  | .num _ => "number"
  | .str _ => "string"
  | .arr _ => "array"
  | .obj _ => "object"

end Json

namespace Value

mutual
/-- A plain JSON document as a value: numbers keep their text, arrays become lists and
objects maps. -/
def ofJson : Json → Value
  | .null => .null
  | .bool b => .bool b
  | .num lit => .number lit
  | .str s => .str s
  | .arr xs => .slice (ofJsonAll xs)
  | .obj kvs => .map (canonicalMembers (ofJsonMembers kvs))

def ofJsonAll : List Json → List Value
  | [] => []
  | x :: xs => ofJson x :: ofJsonAll xs

def ofJsonMembers : List (String × Json) → List (String × Value)
  | [] => []
  | (k, v) :: kvs => (k, ofJson v) :: ofJsonMembers kvs
end

end Value

namespace Service

/-- A request to render a template. An empty language means the named placeholder language. -/
structure Request where
  requestId : String := ""
  template : String := ""
  values : List Value := []
  names : List String := []
  language : String := ""
  variants : List Variant := []
deriving Inhabited

/-- A value of the wrong kind for its place: the kind found, the path to it from the document
(member names as written and item indices; empty for the whole document), whether the path ends
at a member of a record rather than an item of an array, and the type it had to fill. -/
structure Mismatch where
  found : String
  path : List String
  atMember : Bool
  type : String

/-- The message of a mismatch: the path is read from the request record and named as a record
field when it ends at a member. -/
def Mismatch.message (m : Mismatch) : String :=
  let place := "FormatRequest." ++ ".".intercalate m.path
  if m.path.isEmpty then
    "json: cannot unmarshal " ++ m.found ++ " into Go value of type " ++ m.type
  else if m.atMember then
    "json: cannot unmarshal " ++ m.found ++ " into Go struct field " ++ place ++ " of type " ++
      m.type
  else "json: cannot unmarshal " ++ m.found ++ " into " ++ place ++ " of type " ++ m.type

abbrev Filling := StateM (Option Mismatch)

def mismatch (m : Mismatch) : Filling Unit := modify fun first => first <|> some m

/-- Whether two texts are equal ignoring case: of one length, with the characters at each place
in one folding class. -/
def equalFold (a b : String) : Bool :=
  a.length = b.length &&
    (a.toList.zip b.toList).all fun (x, y) => Unicode.foldOf x.toNat = Unicode.foldOf y.toNat

/-- Whether a member name fills a field: exactly, or equal ignoring case. -/
def namesField (key field : String) : Bool := key = field || equalFold key field

def fillText (path : List String) (atMember : Bool) (type : String) (current : String) :
    Json → Filling String
  | .str s => pure s
  | .null => pure current
  | j => do mismatch ⟨j.kindName, path, atMember, type⟩; pure current

def fillNames (key : String) (current : List String) : List Json → Nat → Filling (List String)
  | [], _ => pure []
  | j :: js, i => do
    let n ← fillText [key, toString i] false "string" (current.getD i "") j
    let ns ← fillNames key current js (i + 1)
    pure (n :: ns)

def fillVariant (path : List String) (v : Variant) : List (String × Json) → Filling Variant
  | [] => pure v
  | (k, j) :: kvs => do
    let v ← if namesField k "condition" then do
        let c ← fillText (path ++ [k]) true "string" v.condition j
        pure { v with condition := c }
      else if namesField k "template" then do
        let t ← fillText (path ++ [k]) true "string" v.template j
        pure { v with template := t }
      else pure v
    fillVariant path v kvs

def fillVariants (key : String) (current : List Variant) : List Json → Nat →
    Filling (List Variant)
  | [], _ => pure []
  | j :: js, i => do
    let old := current.getD i ⟨"", ""⟩
    let v ← match j with
      | .obj kvs => fillVariant [key, toString i] old kvs
      | .null => pure old
      | other => do
        mismatch ⟨other.kindName, [key, toString i], false, "selector.Variant"⟩
        pure old
    let vs ← fillVariants key current js (i + 1)
    pure (v :: vs)

/-- A request with one member filled in. -/
def fillMember (r : Request) (key : String) (j : Json) : Filling Request :=
  if namesField key "request_id" then do
    let s ← fillText [key] true "string" r.requestId j
    pure { r with requestId := s }
  else if namesField key "template" then do
    let s ← fillText [key] true "string" r.template j
    pure { r with template := s }
  else if namesField key "syntax" then do
    let s ← fillText [key] true "worker.Syntax" r.language j
    pure { r with language := s }
  else if namesField key "values" then
    match j with
    | .arr xs => pure { r with values := Value.ofJsonAll xs }
    | .null => pure { r with values := [] }
    | other => do
      mismatch ⟨other.kindName, [key], true, "[]interface \x7b\x7d"⟩
      pure r
  else if namesField key "names" then
    match j with
    | .arr xs => do
      let ns ← fillNames key r.names xs 0
      pure { r with names := ns }
    | .null => pure { r with names := [] }
    | other => do
      mismatch ⟨other.kindName, [key], true, "[]string"⟩
      pure r
  else if namesField key "variants" then
    match j with
    | .arr xs => do
      let vs ← fillVariants key r.variants xs 0
      pure { r with variants := vs }
    | .null => pure { r with variants := [] }
    | other => do
      mismatch ⟨other.kindName, [key], true, "[]selector.Variant"⟩
      pure r
  else pure r

def fillMembers (r : Request) : List (String × Json) → Filling Request
  | [] => pure r
  | (k, j) :: kvs => do
    let r ← fillMember r k j
    fillMembers r kvs

/-- The request a JSON document describes, or its first mismatch. -/
def Request.ofJson (j : Json) : Except String Request :=
  let filling : Filling Request := match j with
    | .obj kvs => fillMembers {} kvs
    | .null => pure {}
    | other => do
      mismatch ⟨other.kindName, [], false, "worker.FormatRequest"⟩
      pure {}
  match filling.run none with
  | (r, none) => .ok r
  | (_, some m) => .error m.message

/-- The request carried by a message's `data` field: the first JSON value of its text. -/
def Request.ofData (data : Option Json) : Except String Request :=
  match data with
  | some (.str text) =>
    match Json.readPrefix text.toList with
    | .error e => .error ("failed to unmarshal format request: " ++ e.message)
    | .ok (j, _) =>
      match Request.ofJson j with
      | .ok r => .ok r
      | .error m => .error ("failed to unmarshal format request: " ++ m)
  | _ => .error "missing or invalid 'data' field"

end Service

end MessageTemplate
