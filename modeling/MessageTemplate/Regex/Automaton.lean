import MessageTemplate.Regex.Syntax
import MessageTemplate.Unicode.Case
/-! Searching a text for a match of a regular expression without backtracking. -/
namespace MessageTemplate.Regex

def optionalCopies (r : Re) : Nat → Re
  | 0 => .empty
  | k + 1 => .quest (.seq [r, optionalCopies r k])

mutual
def Re.expand : Re → Re
  | .group r => .group r.expand
  | .star r => .star r.expand
  | .plus r => .plus r.expand
  | .quest r => .quest r.expand
  | .rep r lo hi =>
    let e := r.expand
    let tail := match hi with
      | some m => optionalCopies e (m - lo)
      | none => .star e
    .seq (List.replicate lo e ++ [tail])
  | .seq items => .seq (expandAll items)
  | .alt options => .alt (expandAll options)
  | r => r

def expandAll : List Re → List Re
  | [] => []
  | r :: rs => r.expand :: expandAll rs
end

/-- A test one character must pass. -/
inductive CharTest where
  | oneOf (cs : List Nat)
  | inSet (s : Unicode.CodeSet)
  | any
  | notNewline
deriving Inhabited

def CharTest.pass : CharTest → Nat → Bool
  | .oneOf cs, c => cs.contains c
  | .inSet s, c => s.contains c
  | .any, _ => true
  | .notNewline, c => c ≠ 10

/-- A step of a program; steps are numbered by their place in it. -/
inductive Inst where
  | char (t : CharTest) (next : Nat)
  | split (a b : Nat)
  | assert (a : Anchor) (next : Nat)
  | accept
deriving Inhabited

def emit (prog : Array Inst) (i : Inst) : Nat × Array Inst := (prog.size, prog.push i)

mutual
/-- Compile an expression, with counted repetitions written out, to go on at step `next`
after it: its first step and the program grown by its steps. -/
def compile : Re → Nat → Array Inst → Nat × Array Inst
  | .empty, next, prog => (next, prog)
  | .literal c fold, next, prog =>
    emit prog (.char (.oneOf (if fold then Unicode.foldingClass c else [c])) next)
  | .set s, next, prog => emit prog (.char (.inSet s) next)
  | .anyChar, next, prog => emit prog (.char .any next)
  | .anyButNewline, next, prog => emit prog (.char .notNewline next)
  | .anchor a, next, prog => emit prog (.assert a next)
  | .group r, next, prog => compile r next prog
  | .seq items, next, prog => compileSeq items next prog
  | .alt options, next, prog => compileAlt options next prog
  | .star r, next, prog =>
    let loop := prog.size
    let (body, prog) := compile r loop (prog.push .accept)
    (loop, prog.modify loop fun _ => .split body next)
  | .plus r, next, prog =>
    let loop := prog.size
    let (body, prog) := compile r loop (prog.push .accept)
    (body, prog.modify loop fun _ => .split body next)
  | .quest r, next, prog =>
    let (body, prog) := compile r next prog
    emit prog (.split body next)
  | .rep _ _ _, next, prog => (next, prog)

def compileSeq : List Re → Nat → Array Inst → Nat × Array Inst
  | [], next, prog => (next, prog)
  | r :: rs, next, prog =>
    let (rest, prog) := compileSeq rs next prog
    compile r rest prog

def compileAlt : List Re → Nat → Array Inst → Nat × Array Inst
  | [], next, prog => (next, prog)
  | [r], next, prog => compile r next prog
  | r :: rs, next, prog =>
    let (first, prog) := compile r next prog
    let (others, prog) := compileAlt rs next prog
    emit prog (.split first others)
end

/-- A compiled expression: its steps and the first one. -/
structure Program where
  insts : Array Inst
  start : Nat

def Program.ofRe (r : Re) : Program :=
  let (start, insts) := compile r.expand 0 #[.accept]
  ⟨insts, start⟩

def isWordCode (c : Nat) : Bool :=
  (48 ≤ c && c ≤ 57) || (65 ≤ c && c ≤ 90) || c = 95 || (97 ≤ c && c ≤ 122)

/-- What a position test sees: the characters before and after the position, none at an end. -/
structure Position where
  before : Option Nat
  after : Option Nat

/-- Whether a position passes a test. -/
def Anchor.holds (a : Anchor) (p : Position) : Bool :=
  let word (c : Option Nat) : Bool := (c.map isWordCode).getD false
  match a with
  | .beginText => p.before.isNone
  | .endText => p.after.isNone
  | .beginLine => p.before.isNone || p.before = some 10
  | .endLine => p.after.isNone || p.after = some 10
  | .wordBoundary => word p.before != word p.after
  | .notWordBoundary => word p.before == word p.after

/-- The steps waiting for a character or accepting that are reached from the steps on the stack
without reading, at a position; steps already seen are not visited again. -/
def Program.close (prog : Program) (pos : Position) : Nat → List Nat → Array Bool → List Nat →
    Array Bool × List Nat
  | 0, _, seen, found => (seen, found)
  | _, [], seen, found => (seen, found)
  | fuel + 1, i :: stack, seen, found =>
    if seen.getD i true then prog.close pos fuel stack seen found
    else
      let seen := seen.set! i true
      match prog.insts.getD i .accept with
      | .split a b => prog.close pos fuel (a :: b :: stack) seen found
      | .assert a next =>
        if a.holds pos then prog.close pos fuel (next :: stack) seen found
        else prog.close pos fuel stack seen found
      | _ => prog.close pos fuel stack seen (i :: found)

def Program.accepts (prog : Program) (i : Nat) : Bool :=
  match prog.insts.getD i .accept with
  | .accept => true
  | _ => false

def Program.advance (prog : Program) (pos : Position) (c : Nat) (waiting : List Nat) :
    Array Bool × List Nat :=
  let fuel := 2 * prog.insts.size + 2
  waiting.foldl (fun (seen, found) i =>
    match prog.insts.getD i .accept with
    | .char t next => if t.pass c then prog.close pos fuel [next] seen found else (seen, found)
    | _ => (seen, found)) (Array.replicate prog.insts.size false, [])

/-- Whether some match attempt started at or before position `i` of the text succeeds, given
the steps waiting at `i` and those already seen there. -/
def Program.scan (prog : Program) (text : Array Nat) (i : Nat) (seen : Array Bool)
    (waiting : List Nat) : Bool :=
  let pos : Position := ⟨if i = 0 then none else text[i - 1]?, text[i]?⟩
  let (_, waiting) := prog.close pos (2 * prog.insts.size + 2) [prog.start] seen waiting
  if waiting.any prog.accepts then true
  else if h : i < text.size then
    let next : Position := ⟨some text[i], text[i + 1]?⟩
    let (seen, waiting) := prog.advance next text[i] waiting
    prog.scan text (i + 1) seen waiting
  else false
termination_by text.size - i

def search (r : Re) (s : String) : Bool :=
  let prog := Program.ofRe r
  let text := (s.toList.map Char.toNat).toArray
  prog.scan text 0 (Array.replicate prog.insts.size false) []

end MessageTemplate.Regex
