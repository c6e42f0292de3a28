import MessageTemplate.Handlebars.Parse
/-! White space control over a parsed handlebars template. -/
namespace MessageTemplate.Handlebars

def isSpaceChar (c : Char) : Bool := c = ' ' || c = '\t' || c = '\n' || c = '\r' || c.toNat = 12

def endsLine (whole : Bool) (s : String) : Bool :=
  let cs := s.toList
  (cs.contains '\n' || whole) && (cs.reverse.takeWhile (· ≠ '\n')).all isSpaceChar

def startsLine (whole : Bool) (s : String) : Bool :=
  let cs := s.toList
  (cs.contains '\n' || whole) && (cs.takeWhile (· ≠ '\n')).all isSpaceChar

def blankBefore (body : List Node) (i : Nat) (isRoot : Bool) : Bool :=
  if i = 0 then isRoot
  else
    match body[i - 1]? with
    | none => isRoot
    | some (.content _ _ _ value rs _) => (value.isEmpty && rs) || endsLine (i < 2 && isRoot) value
    | some _ => false

def blankAfter (body : List Node) (j : Nat) (isRoot : Bool) : Bool :=
  match body[j]? with
  | none => isRoot
  | some (.content _ _ _ value _ ls) =>
    (value.isEmpty && ls) || startsLine (body.length ≤ j + 1 && isRoot) value
  | some _ => false

def omitRight (body : List Node) (j : Nat) (all : Bool) : List Node :=
  match body[j]? with
  | some (.content pos line original value rs ls) =>
    if !all && rs then body
    else
      let cs := value.toList
      let rest :=
        if all then cs.dropWhile isSpaceChar
        else
          let r := cs.dropWhile (fun c => c = ' ' || c = '\t')
          let r := match r with | '\r' :: more => more | _ => r
          match r with | '\n' :: more => more | _ => r
      let v := String.ofList rest
      body.set j (.content pos line original v (v ≠ value) ls)
  | _ => body

def omitLeft (body : List Node) (j : Option Nat) (all : Bool) : List Node × Bool :=
  match j with
  | none => (body, false)
  | some j =>
    match body[j]? with
    | some (.content pos line original value rs ls) =>
      if !all && ls then (body, false)
      else
        let cs := value.toList.reverse
        let rest := if all then cs.dropWhile isSpaceChar else cs.dropWhile (fun c => c = ' ' || c = '\t')
        let v := String.ofList rest.reverse
        (body.set j (.content pos line original v rs (v ≠ value)), v ≠ value)
    | _ => (body, false)

def indexBefore (i : Nat) : Option Nat := if i = 0 then none else some (i - 1)

def lastIndex (body : List Node) : Option Nat := indexBefore body.length

/-- What a statement asks of white space control: strip marks on each side, and whether it is
a candidate for standing alone as the opening, the closing, or the whole of a line. -/
structure Standalone where
  before : Bool := false
  after : Bool := false
  opening : Bool := false
  closing : Bool := false
  inline : Bool := false

def firstInverse (inverse : List Node) (chained : Bool) : List Node :=
  if chained then
    match inverse with
    | .block _ _ _ (some b) .. :: _ => b
    | _ => []
  else inverse

def mapFirstInverse (f : List Node → List Node) (inverse : List Node) (chained : Bool) :
    List Node :=
  if chained then
    match inverse with
    | .block pos line c (some b) bound inv ch o cl i :: rest =>
      .block pos line c (some (f b)) bound inv ch o cl i :: rest
    | other => other
  else f inverse

def mapMain (f : List Node → List Node) : Node → Node
  | .block pos line c (some b) bound inv ch o cl i => .block pos line c (some (f b)) bound inv ch o cl i
  | .block pos line c none bound (some inv) ch o cl i =>
    .block pos line c none bound (some (f inv)) ch o cl i
  | n => n

def mapLast (f : List Node → List Node) : Node → Node
  | .block pos line c b bound (some inv) ch o cl i => .block pos line c b bound (some (f inv)) ch o cl i
  | .block pos line c (some b) bound none ch o cl i => .block pos line c (some (f b)) bound none ch o cl i
  | n => n

def controlBlock (pos line : Nat) (c : Call) (body : Option (List Node)) (bound : List String)
    (inverse : Option (List Node)) (chained : Bool) (openStrip closeStrip inverseStrip : Strip) :
    Node × Standalone :=
  let main := (body <|> inverse).getD []
  let first := match body, inverse with
    | some _, some inv => firstInverse inv chained
    | _, _ => main
  let info : Standalone := {
    before := openStrip.before, after := closeStrip.after
    opening := blankAfter main 0 false
    closing := blankBefore first first.length false }
  let main := if openStrip.after then omitRight main 0 true else main
  match body, inverse with
  | some _, some inv =>
    let main := if inverseStrip.before then (omitLeft main (lastIndex main) true).1 else main
    let inv := if inverseStrip.after then mapFirstInverse (omitRight · 0 true) inv chained else inv
    let inv := if closeStrip.before then
        mapFirstInverse (fun b => (omitLeft b (lastIndex b) true).1) inv chained
      else inv
    let first := firstInverse inv chained
    let (main, inv) :=
      if blankBefore main main.length false && blankAfter first 0 false then
        ((omitLeft main (lastIndex main) false).1, mapFirstInverse (omitRight · 0 false) inv chained)
      else (main, inv)
    (.block pos line c (some main) bound (some inv) chained openStrip closeStrip inverseStrip, info)
  | _, _ =>
    let main := if closeStrip.before then (omitLeft main (lastIndex main) true).1 else main
    let (body, inverse) := if body.isSome then (some main, inverse) else (body, some main)
    (.block pos line c body bound inverse chained openStrip closeStrip inverseStrip, info)

def applyStandalone (body : List Node) (i : Nat) (isRoot : Bool) (s : Standalone) : List Node :=
  let prevBlank := blankBefore body i isRoot
  let nextBlank := blankAfter body (i + 1) isRoot
  let body := if s.after then omitRight body (i + 1) true else body
  let body := if s.before then (omitLeft body (indexBefore i) true).1 else body
  let body := if s.inline && prevBlank && nextBlank then
      (omitLeft (omitRight body (i + 1) false) (indexBefore i) false).1
    else body
  let body := if s.opening && prevBlank then
      (omitLeft (body.modify i (mapMain (omitRight · 0 false))) (indexBefore i) false).1
    else body
  if s.closing && nextBlank then
    (omitRight body (i + 1) false).modify i (mapLast fun b => (omitLeft b (lastIndex b) false).1)
  else body

mutual
def controlFrom : Nat → Bool → Nat → Nat → List Node → List Node
  | 0, _, _, _, body => body
  | _, _, _, 0, body => body
  | fuel + 1, isRoot, i, count + 1, body =>
    match body[i]? with
    | none => body
    | some node =>
      let (node, info) := controlNode fuel node
      let body := body.set i node
      let body := match info with
        | some s => applyStandalone body i isRoot s
        | none => body
      controlFrom fuel isRoot (i + 1) count body

def controlNode : Nat → Node → Node × Option Standalone
  | 0, n => (n, none)
  | fuel + 1, n =>
    match n with
    | .content .. => (n, none)
    | .comment _ _ strip => (n, some { before := strip.before, after := strip.after, inline := true })
    | .partialCall _ _ _ _ strip =>
      (n, some { before := strip.before, after := strip.after, inline := true })
    | .mustache _ _ _ _ strip => (n, some { before := strip.before, after := strip.after })
    | .block pos line c body bound inverse chained o cl i =>
      let body := body.map fun b => controlFrom fuel false 0 b.length b
      let inverse := inverse.map fun b => controlFrom fuel false 0 b.length b
      let (n, s) := controlBlock pos line c body bound inverse chained o cl i
      (n, some s)
end

def controlWhitespace (body : List Node) (fuel : Nat) : List Node :=
  controlFrom fuel true 0 body.length body

def parseTemplate (src : String) : Except SyntaxError (List Node) :=
  (readTemplate src).map fun body => controlWhitespace body (2 * src.length + 8)

end MessageTemplate.Handlebars
