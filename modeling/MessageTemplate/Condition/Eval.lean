import MessageTemplate.Condition.Syntax
import MessageTemplate.Condition.Types
import MessageTemplate.Condition.Value
import MessageTemplate.Numeric.Parse
import MessageTemplate.Regex.Parse
import MessageTemplate.Regex.Automaton
import MessageTemplate.Time.Layout
import MessageTemplate.Time.Zone
/-! Evaluation of checked conditions. -/
namespace MessageTemplate.Condition

abbrev Result := Except String CelVal

def minInt : Int := -(Int.pow 2 63)

def fitsInt (v : Int) : Bool := minInt ≤ v && v < Int.pow 2 63

def checkedInt (v : Int) : Result := if fitsInt v then .ok (.int v) else .error "integer overflow"

def checkedUint (v : Int) : Result :=
  if 0 ≤ v && v < Int.pow 2 64 then .ok (.uint v.toNat) else .error "unsigned integer overflow"

def checkedDuration (v : Int) : Result :=
  if fitsInt v then .ok (.duration v) else .error "integer overflow"

def addNanos (t : Instant) (ns : Int) : Instant :=
  let total := (t.nanos : Int) + ns
  { t with seconds := t.seconds + total / 1000000000, nanos := (total % 1000000000).toNat }

def minUnixSeconds : Int := -62135596800

def maxUnixSeconds : Int := 253402300799

def checkedTimestamp (t : Instant) : Result :=
  if minUnixSeconds ≤ t.seconds && t.seconds ≤ maxUnixSeconds then .ok (.timestamp t)
  else .error "timestamp overflow"

def conversionError (target : String) : String :=
  "type conversion error from 'string' to '" ++ target ++ "'"

def floatText (x : Binary) : String := x.toText FloatFormat.double 'g' (-1)

def kindRank : CelVal → Nat
  | .bool _ => 0 | .int _ => 1 | .uint _ => 2 | .double _ => 3 | .string _ => 4
  | .bytes _ => 5 | .null => 6 | .timestamp _ => 7 | .duration _ => 8 | .type _ => 9
  | _ => 10

def keyBefore (a b : CelVal) : Bool :=
  if kindRank a ≠ kindRank b then kindRank a < kindRank b
  else
    match a, b with
    | .bool x, .bool y => !x && y
    | .string x, .string y => CelVal.compareBytes (CelVal.utf8 x) (CelVal.utf8 y) == .lt
    | .bytes x, .bytes y => CelVal.compareBytes x y == .lt
    | _, _ =>
      match CelVal.order a b with
      | .ok o => o == .lt
      | .error _ => false

mutual
def valueText : CelVal → String
  | .string s => s
  | .int v => toString v
  | .uint v => toString v
  | .double x => floatText x
  | .bool b => if b then "true" else "false"
  | .null => "NULL_VALUE"
  | .bytes bs => "[" ++ " ".intercalate (bs.map toString) ++ "]"
  | .timestamp t => t.display
  | .duration ns => Duration.display ns
  | .type n => n
  | .list items _ => "[" ++ " ".intercalate (itemsText items) ++ "]"
  | .map entries _ =>
    let sorted := (entriesText entries).mergeSort fun a b => keyBefore a.1 b.1
    "map[" ++ " ".intercalate (sorted.map (·.2)) ++ "]"
  | .host v => v.display

def itemsText : List CelVal → List String
  | [] => []
  | x :: xs => valueText x :: itemsText xs

def entriesText : List (CelVal × CelVal) → List (CelVal × String)
  | [] => []
  | (k, v) :: rest => (k, valueText k ++ ":" ++ valueText v) :: entriesText rest
end

def keyText (k : CelVal) : String := valueText k

def typeValueName (v : CelVal) : String := v.typeName

def rangeKindName : CelVal → String
  | .string _ => "types.String"
  | .int _ => "types.Int"
  | .uint _ => "types.Uint"
  | .double _ => "types.Double"
  | .bool _ => "types.Bool"
  | .null => "types.Null"
  | .bytes _ => "types.Bytes"
  | .timestamp _ => "types.Timestamp"
  | .duration _ => "types.Duration"
  | .type _ => "*types.Type"
  | _ => "ref.Val"

def arith (fn : String) (a b : CelVal) : Result :=
  let dbl := FloatFormat.double
  match fn, a, b with
  | "_+_", .int x, .int y => checkedInt (x + y)
  | "_+_", .uint x, .uint y => checkedUint ((x : Int) + y)
  | "_+_", .double x, .double y => .ok (.double (x.add dbl y))
  | "_+_", .string x, .string y => .ok (.string (x ++ y))
  | "_+_", .bytes x, .bytes y => .ok (.bytes (x ++ y))
  | "_+_", .list xs o, .list ys p =>
    if xs.isEmpty then .ok (.list ys p)
    else if ys.isEmpty then .ok (.list xs o)
    else .ok (.list (xs ++ ys) .joined)
  | "_+_", .timestamp t, .duration d => checkedTimestamp (addNanos t d)
  | "_+_", .duration d, .timestamp t => checkedTimestamp (addNanos t d)
  | "_+_", .duration x, .duration y => checkedDuration (x + y)
  | "_-_", .int x, .int y => checkedInt (x - y)
  | "_-_", .uint x, .uint y => checkedUint ((x : Int) - y)
  | "_-_", .double x, .double y => .ok (.double (x.sub dbl y))
  | "_-_", .timestamp s, .timestamp t =>
    checkedDuration ((s.seconds - t.seconds) * 1000000000 + s.nanos - t.nanos)
  | "_-_", .timestamp t, .duration d =>
    if d = minInt then .error "integer overflow" else checkedTimestamp (addNanos t (-d))
  | "_-_", .duration x, .duration y => checkedDuration (x - y)
  | "_*_", .int x, .int y => checkedInt (x * y)
  | "_*_", .uint x, .uint y => checkedUint ((x : Int) * y)
  | "_*_", .double x, .double y => .ok (.double (x.mul dbl y))
  | "_/_", .int x, .int y =>
    if y = 0 then .error "division by zero" else checkedInt (x.tdiv y)
  | "_/_", .uint x, .uint y => if y = 0 then .error "division by zero" else .ok (.uint (x / y))
  | "_/_", .double x, .double y => .ok (.double (x.div dbl y))
  | "_%_", .int x, .int y =>
    if y = 0 then .error "modulus by zero"
    else if x = minInt && y = -1 then .error "integer overflow"
    else .ok (.int (x.tmod y))
  | "_%_", .uint x, .uint y => if y = 0 then .error "modulus by zero" else .ok (.uint (x % y))
  | _, _, _ => .error noOverload

def ordered (fn : String) (o : Ordering) : Bool :=
  if fn = "_<_" then o = .lt
  else if fn = "_<=_" then o ≠ .gt
  else if fn = "_>_" then o = .gt
  else o ≠ .lt

def listIndex (items : List CelVal) (i : CelVal) : Result :=
  let pick (n : Int) : Result :=
    if 0 ≤ n && n < items.length then (items.getD n.toNat .null).force
    else .error ("index out of bounds: " ++ toString n)
  match i with
  | .int n => pick n
  | .uint n => if n < Nat.pow 2 63 then pick n else .error ("index out of bounds: " ++ toString n)
  | .double x =>
    match x.truncInt? with
    | some n => if x.isIntegral then pick n else .error ("unsupported index value " ++ floatText x ++ " in list")
    | none => .error ("unsupported index value " ++ floatText x ++ " in list")
  | other => .error ("unsupported index type '" ++ other.typeName ++ "' in list")

def mapIndex (entries : List (CelVal × CelVal)) (k : CelVal) : Result :=
  match CelVal.lookupIn CelVal.eqFuel k entries with
  | some v => v.force
  | none => .error ("no such key: " ++ keyText k)

def indexInto (target key : CelVal) : Result :=
  match target with
  | .list items _ => listIndex items key
  | .map entries _ => mapIndex entries key
  | _ => .error ("no such key: " ++ keyText key)

def selectField (target : CelVal) (field : String) : Result :=
  match target with
  | .list _ _ => .error "unsupported index type 'string' in list"
  | _ => indexInto target (.string field)

def hasField (target : CelVal) (field : String) : Result :=
  match target with
  | .map entries _ => .ok (.bool (CelVal.lookupIn CelVal.eqFuel (.string field) entries).isSome)
  | .list _ _ => .error "unsupported index type 'string' in list"
  | _ => .ok (.bool false)

def memberOf (x target : CelVal) : Result :=
  match target with
  | .list items _ => .ok (.bool (items.any fun y => CelVal.equal CelVal.eqFuel x y))
  | .map entries _ => .ok (.bool (CelVal.lookupIn CelVal.eqFuel x entries).isSome)
  | _ => .error noOverload

def doubleToInt (x : Binary) : Result :=
  let dbl := FloatFormat.double
  if x.isNaN || !(Binary.lt (Binary.ofInt dbl minInt) x) || !(x.lt (Binary.ofInt dbl (Int.pow 2 63))) then
    .error "integer overflow"
  else
    match x.truncInt? with
    | some n => .ok (.int n)
    | none => .error "integer overflow"

def doubleToUint (x : Binary) : Result :=
  let dbl := FloatFormat.double
  if x.isNaN || x.lt Binary.zero || !(x.lt (Binary.ofInt dbl (Int.pow 2 64))) then
    .error "unsigned integer overflow"
  else
    match x.truncInt? with
    | some n => .ok (.uint n.toNat)
    | none => .error "unsigned integer overflow"

def durationText (ns : Int) : String :=
  let dbl := FloatFormat.double
  let whole := Binary.ofInt dbl (ns.tdiv 1000000000)
  let frac := (Binary.ofInt dbl (ns.tmod 1000000000)).div dbl (Binary.ofInt dbl 1000000000)
  (whole.add dbl frac).toText dbl 'f' (-1) ++ "s"

def decodeUtf8? (bs : List Nat) : Option String :=
  String.fromUTF8? (ByteArray.mk (bs.map UInt8.ofNat).toArray)

/-- A type conversion function applied to a value. -/
def convert (fn : String) (v : CelVal) : Result :=
  let dbl := FloatFormat.double
  if fn = "int" then
    match v with
    | .int _ => .ok v
    | .uint n => checkedInt n
    | .double x => doubleToInt x
    | .string s =>
      match Numeric.readSigned 64 s with
      | .ok n => .ok (.int n)
      | .error _ => .error (conversionError "int")
    | .timestamp t => .ok (.int t.seconds)
    | .duration ns => .ok (.int ns)
    | _ => .error noOverload
  else if fn = "uint" then
    match v with
    | .uint _ => .ok v
    | .int n => checkedUint n
    | .double x => doubleToUint x
    | .string s =>
      match Numeric.readUnsigned 64 s with
      | .ok n => .ok (.uint n)
      | .error _ => .error (conversionError "uint")
    | _ => .error noOverload
  else if fn = "double" then
    match v with
    | .double _ => .ok v
    | .int n => .ok (.double (Binary.ofInt dbl n))
    | .uint n => .ok (.double (Binary.ofInt dbl n))
    | .string s =>
      match Numeric.readFloat dbl s with
      | .ok x => .ok (.double x)
      | .error _ => .error (conversionError "double")
    | _ => .error noOverload
  else if fn = "string" then
    match v with
    | .string _ => .ok v
    | .int n => .ok (.string (toString n))
    | .uint n => .ok (.string (toString n))
    | .double x => .ok (.string (floatText x))
    | .bytes bs =>
      match decodeUtf8? bs with
      | some s => .ok (.string s)
      | none => .error "invalid UTF-8 in bytes, cannot convert to string"
    | .bool b => .ok (.string (if b then "true" else "false"))
    | .timestamp t => .ok (.string t.toRfc3339)
    | .duration ns => .ok (.string (durationText ns))
    | _ => .error noOverload
  else if fn = "bytes" then
    match v with
    | .bytes _ => .ok v
    | .string s => .ok (.bytes (CelVal.utf8 s))
    | _ => .error noOverload
  else if fn = "bool" then
    match v with
    | .bool _ => .ok v
    | .string s =>
      match Numeric.readBool s with
      | .ok b => .ok (.bool b)
      | .error _ => .error (conversionError "bool")
    | _ => .error noOverload
  else if fn = "dyn" then .ok v
  else if fn = "type" then .ok (.type (typeValueName v))
  else if fn = "duration" then
    match v with
    | .duration _ => .ok v
    | .int n => .ok (.duration n)
    | .string s =>
      match Duration.read s with
      | .ok ns => .ok (.duration ns)
      | .error _ => .error (conversionError "google.protobuf.Duration")
    | _ => .error noOverload
  else if fn = "timestamp" then
    match v with
    | .timestamp _ => .ok v
    | .int n => checkedTimestamp ⟨n, 0, 0, "UTC"⟩
    | .string s =>
      match Instant.ofRfc3339? s with
      | some t => checkedTimestamp t
      | none => .error (conversionError "google.protobuf.Timestamp")
    | _ => .error noOverload
  else .error noOverload

def wrap64 (z : Int) : Int :=
  let m := z % 18446744073709551616
  if m ≥ 9223372036854775808 then m - 18446744073709551616 else m

def floatSeconds (ns : Int) : Int :=
  let f := FloatFormat.double
  let whole := Binary.ofInt f (ns.tdiv 1000000000)
  let part := Binary.div f (Binary.ofInt f (ns.tmod 1000000000)) (Binary.ofInt f 1000000000)
  ((Binary.add f whole part).truncInt?).getD 0

def zoneOffset (zone : String) (seconds : Int) : Except String Int :=
  let cs := zone.toList
  if cs.contains ':' then do
    let hoursText := String.ofList (cs.takeWhile (· ≠ ':'))
    let minutesText := String.ofList ((cs.dropWhile (· ≠ ':')).drop 1)
    let hours ← (Numeric.readSigned 64 hoursText).mapError (·.message "strconv.Atoi" hoursText)
    let minutes ← (Numeric.readSigned 64 minutesText).mapError (·.message "strconv.Atoi" minutesText)
    let scaled := wrap64 (hours * 60)
    let total := wrap64 (if cs.head? = some '-' then scaled - minutes else scaled + minutes)
    pure (floatSeconds (wrap64 (total * 60000000000)))
  else if zone = "" || zone = "UTC" || zone = "Local" then pure 0
  else if (zone.splitOn "..").length > 1 || cs.head? = some '/' || cs.head? = some '\\' then
    .error "time: invalid location name"
  else
    match Zone.locate zone with
    | .ok z => pure (z.offsetAt seconds)
    | .error e => .error (e.message zone)

def accessor (fn : String) (v : CelVal) : Result :=
  match v with
  | .timestamp t =>
    let c := t.civil
    if fn = "getFullYear" then .ok (.int c.year)
    else if fn = "getMonth" then .ok (.int ((c.month : Int) - 1))
    else if fn = "getDayOfYear" then .ok (.int ((t.yearDay : Int) - 1))
    else if fn = "getDayOfMonth" then .ok (.int ((c.day : Int) - 1))
    else if fn = "getDate" then .ok (.int c.day)
    else if fn = "getDayOfWeek" then .ok (.int t.weekday)
    else if fn = "getHours" then .ok (.int c.hour)
    else if fn = "getMinutes" then .ok (.int c.minute)
    else if fn = "getSeconds" then .ok (.int c.second)
    else if fn = "getMilliseconds" then .ok (.int (t.nanos / 1000000))
    else .error noOverload
  | .duration ns =>
    if fn = "getHours" then .ok (.int (ns.tdiv 3600000000000))
    else if fn = "getMinutes" then .ok (.int (ns.tdiv 60000000000))
    else if fn = "getSeconds" then .ok (.int (ns.tdiv 1000000000))
    else if fn = "getMilliseconds" then .ok (.int (ns.tdiv 1000000))
    else .error noOverload
  | _ => .error noOverload

def sizeOf (v : CelVal) : Result :=
  match v with
  | .string s => .ok (.int s.length)
  | .bytes bs => .ok (.int bs.length)
  | .list items _ => .ok (.int items.length)
  | .map entries _ => .ok (.int entries.length)
  | _ => .error noOverload

def matchesText (s pattern : String) : Result :=
  match Regex.parse pattern with
  | .ok r => .ok (.bool (Regex.search r s))
  | .error e => .error e.message

/-- A function applied to evaluated arguments, the receiver first for a method. -/
def apply (fn : String) (receiver : Bool) (args : List CelVal) : Result :=
  match fn, receiver, args with
  | "_==_", _, [a, b] => .ok (.bool (CelVal.equal CelVal.eqFuel a b))
  | "_!=_", _, [a, b] => .ok (.bool !(CelVal.equal CelVal.eqFuel a b))
  | "!_", _, [.bool b] => .ok (.bool !b)
  | "-_", _, [.int n] => checkedInt (-n)
  | "-_", _, [.double x] => .ok (.double x.neg)
  | "@in", _, [x, target] => memberOf x target
  | "_[_]", _, [target, key] => indexInto target key
  | "size", _, [v] => sizeOf v
  | "contains", true, [.string s, .string t] => .ok (.bool ((s.splitOn t).length > 1 || t.isEmpty))
  | "startsWith", true, [.string s, .string t] => .ok (.bool (s.startsWith t))
  | "endsWith", true, [.string s, .string t] => .ok (.bool (s.endsWith t))
  | "matches", _, [.string s, .string p] => matchesText s p
  | _, false, [v] =>
    if ["int", "uint", "double", "string", "bytes", "bool", "dyn", "type", "duration",
        "timestamp"].contains fn then convert fn v
    else .error noOverload
  | _, true, [v] => accessor fn v
  | _, true, [.timestamp t, .string zone] =>
    match zoneOffset zone t.seconds with
    | .ok off => accessor fn (.timestamp { t with offset := off })
    | .error e => .error e
  | _, _, [a, b] =>
    if fn = "_<_" || fn = "_<=_" || fn = "_>_" || fn = "_>=_" then
      match CelVal.order a b with
      | .ok o => .ok (.bool (ordered fn o))
      | .error e => .error e
    else arith fn a b
  | _, _, _ => .error noOverload

def andValues (l r : Result) : Result :=
  match l, r with
  | .ok (.bool false), _ => .ok (.bool false)
  | _, .ok (.bool false) => .ok (.bool false)
  | .ok (.bool true), .ok (.bool true) => .ok (.bool true)
  | .error e, _ => .error e
  | _, .error e => .error e
  | _, _ => .error noOverload

def orValues (l r : Result) : Result :=
  match l, r with
  | .ok (.bool true), _ => .ok (.bool true)
  | _, .ok (.bool true) => .ok (.bool true)
  | .ok (.bool false), .ok (.bool false) => .ok (.bool false)
  | .error e, _ => .error e
  | _, .error e => .error e
  | _, _ => .error noOverload

/-- The supplied variables, as template values. -/
abbrev Activation := List (String × Value)

abbrev Scope := List (String × Result)

mutual
def eval (fuel : Nat) (act : Activation) (scope : Scope) (e : Expr) : Result :=
  match fuel with
  | 0 => .error "evaluation exceeded its budget"
  | fuel + 1 =>
    match e with
    | .lit _ l =>
      .ok (match l with
        | .null => .null | .bool b => .bool b | .int v => .int v | .uint v => .uint v
        | .double x => .double x | .string s => .string s | .bytes bs => .bytes bs)
    | .ident _ name =>
      let name := withoutLeadingDot name
      match scope.lookup name with
      | some r => r
      | none =>
        if name = "values" || name = "template" then
          match act.lookup name with
          | some v => CelVal.ofHost v
          | none => .error ("no such attribute(s): " ++ name)
        else
          match GlobalName.find? name with
          | some (.type _ runtimeName) => .ok (.type runtimeName)
          | some (.constant v) => .ok (.int v)
          | _ => .error ("no such attribute(s): " ++ name)
    | .select _ operand field => do
      let t ← eval fuel act scope operand
      selectField t field
    | .test _ operand field => do
      let t ← eval fuel act scope operand
      hasField t field
    | .call _ fn args =>
      if fn = "_&&_" || fn = "_||_" then
        match args with
        | [a, b] =>
          let l := eval fuel act scope a
          let stop := if fn = "_&&_" then false else true
          match l with
          | .ok (.bool v) => if v = stop then l else
              if fn = "_&&_" then andValues l (eval fuel act scope b)
              else orValues l (eval fuel act scope b)
          | _ =>
            if fn = "_&&_" then andValues l (eval fuel act scope b)
            else orValues l (eval fuel act scope b)
        | _ => .error noOverload
      else if fn = "_?_:_" then
        match args with
        | [c, a, b] =>
          match eval fuel act scope c with
          | .ok (.bool true) => eval fuel act scope a
          | .ok (.bool false) => eval fuel act scope b
          | .ok _ => .error noOverload
          | .error e => .error e
        | _ => .error noOverload
      else do
        let vs ← evalAll fuel act scope args
        apply fn false vs
    | .method _ fn target args => do
      let t ← eval fuel act scope target
      let vs ← evalAll fuel act scope args
      apply fn true (t :: vs)
    | .list _ items => do
      let vs ← evalAll fuel act scope items
      .ok (.list vs .built)
    | .map _ entries => do
      let ks ← evalAll fuel act scope (entries.map (·.1))
      let vs ← evalAll fuel act scope (entries.map (·.2))
      .ok (.map (CelVal.insertEntries [] (ks.zip vs)) .built)
    | .message _ name _ => .error ("unknown type: " ++ name)
    | .fold _ m range var args => do
      let r ← eval fuel act scope range
      let elems ← match r with
        | .list items _ => .ok items
        | .map entries _ => .ok (entries.map (·.1))
        | other => .error ("got '" ++ rangeKindName other ++ "', expected iterable type")
      let init : Result := match m with
        | .all => .ok (.bool true)
        | .any => .ok (.bool false)
        | .one => .ok (.int 0)
        | _ => .ok (.list [] .built)
      let acc := foldItems fuel act scope m var args init elems
      match m, acc with
      | .one, .ok (.int n) => .ok (.bool (n = 1))
      | _, acc => acc

def evalAll (fuel : Nat) (act : Activation) (scope : Scope) (es : List Expr) :
    Except String (List CelVal) :=
  match fuel with
  | 0 => .error "evaluation exceeded its budget"
  | fuel + 1 =>
    match es with
    | [] => .ok []
    | e :: es => do
      let v ← eval fuel act scope e
      let vs ← evalAll fuel act scope es
      .ok (v :: vs)

def foldItems (fuel : Nat) (act : Activation) (scope : Scope) (m : Macro) (var : String)
    (args : List Expr) (acc : Result) (elems : List CelVal) : Result :=
  match fuel with
  | 0 => .error "evaluation exceeded its budget"
  | fuel + 1 =>
  match elems with
  | [] => acc
  | x :: xs =>
    let stop := match m, acc with
      | .all, .ok (.bool false) => true
      | .any, .ok (.bool true) => true
      | _, _ => false
    if stop then acc
    else
      let inner := (var, x.force) :: scope
      let pred : Result := match args with
        | p :: _ => eval fuel act inner p
        | [] => .error noOverload
      let acc' : Result :=
        match m with
        | .all => andValues acc pred
        | .any => orValues acc pred
        | .one =>
          match pred with
          | .ok (.bool true) => (do let a ← acc; arith "_+_" a (.int 1))
          | .ok (.bool false) => acc
          | .ok _ => .error noOverload
          | .error e => .error e
        | .filter =>
          match pred with
          | .ok (.bool true) => (do let a ← acc; let v ← x.force; pure (CelVal.append a v))
          | .ok (.bool false) => acc
          | .ok _ => .error noOverload
          | .error e => .error e
        | .map =>
          let push : Result := do
            let a ← acc
            let t ← match args with
              | [_, t] => eval fuel act inner t
              | _ => pred
            pure (CelVal.append a t)
          match args with
          | [_, _] =>
            match pred with
            | .ok (.bool true) => push
            | .ok (.bool false) => acc
            | .ok _ => .error noOverload
            | .error e => .error e
          | _ => push
      foldItems fuel act scope m var args acc' xs
end

end MessageTemplate.Condition
