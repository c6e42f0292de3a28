import MessageTemplate.Json.Basic
import MessageTemplate.Text.Quote
/-! Reading one JSON value from the front of a text, as a streaming decoder does. -/
namespace MessageTemplate.Json

/-- Why no JSON value could be read. -/
inductive SyntaxError where
  | noValue
  | unexpectedEnd
  | invalid (c : Char) (context : String)
  | badEscape (chars : List Char) (cut : List Nat)
deriving Repr, DecidableEq

def replacementChar : Char := Char.ofNat 0xFFFD

def backquote : Char := Char.ofNat 96

def escapeText (chars : List Char) (cut : List Nat) : String :=
  let plain := cut.isEmpty && chars.all fun c =>
    Text.isPrintable c && c ≠ ' ' && c ≠ backquote && c ≠ replacementChar
  if plain then String.ofList (backquote :: chars ++ [backquote])
  else
    String.ofList ('"' :: chars.flatMap (Text.escapeIn '"') ++
      cut.flatMap (fun b => '\\' :: 'x' :: Text.hexDigits 2 b) ++ ['"'])

/-- The message of a syntax error. -/
def SyntaxError.message : SyntaxError → String
  | .noValue => "EOF"
  | .unexpectedEnd => "unexpected EOF"
  | .invalid c ctx => "invalid character " ++ Text.quoteChar c ++ " " ++ ctx
  | .badEscape cs cut => "invalid escape sequence " ++ escapeText cs cut ++ " in string"

def isBlank (c : Char) : Bool := c = ' ' || c = '\t' || c = '\n' || c = '\r'

def skipBlanks (cs : List Char) : List Char := cs.dropWhile isBlank

/-- Reading a value: the value and the rest of the text, or the reason it failed. -/
abbrev Read (α : Type) := Except SyntaxError (α × List Char)

def spanDigits (cs : List Char) : List Char × List Char :=
  (cs.takeWhile Char.isDigit, cs.dropWhile Char.isDigit)

def faultAt (cs : List Char) (ctx : String) : SyntaxError :=
  match cs with
  | [] => .unexpectedEnd
  | c :: _ => .invalid c ctx

def readExponent (cs : List Char) : Read (List Char) :=
  match cs with
  | e :: rest =>
    if e = 'e' || e = 'E' then
      let (sign, afterSign) := match rest with
        | s :: r => if s = '+' || s = '-' then ([s], r) else ([], rest)
        | [] => ([], [])
      let (ds, tail) := spanDigits afterSign
      if ds.isEmpty then .error (faultAt afterSign "in numeric literal")
      else .ok (e :: sign ++ ds, tail)
    else .ok ([], cs)
  | [] => .ok ([], [])

def readNumber (cs : List Char) : Read String :=
  let (minus, afterMinus) := match cs with
    | '-' :: r => (['-'], r)
    | _ => ([], cs)
  let intPart : Read (List Char) := match afterMinus with
    | '0' :: r => .ok (['0'], r)
    | c :: _ =>
      if c.isDigit then .ok (spanDigits afterMinus) else .error (.invalid c "in numeric literal")
    | [] => .error .unexpectedEnd
  match intPart with
  | .error e => .error e
  | .ok (ip, r1) =>
    let frac : Read (List Char) := match r1 with
      | '.' :: r =>
        let (ds, tail) := spanDigits r
        if ds.isEmpty then .error (faultAt r "in numeric literal")
        else .ok ('.' :: ds, tail)
      | _ => .ok ([], r1)
    match frac with
    | .error e => .error e
    | .ok (fp, r2) =>
      match readExponent r2 with
      | .error e => .error e
      | .ok (ep, r3) => .ok (String.ofList (minus ++ ip ++ fp ++ ep), r3)

def hexValue? (c : Char) : Option Nat :=
  if '0' ≤ c && c ≤ '9' then some (c.toNat - 48)
  else if 'a' ≤ c && c ≤ 'f' then some (c.toNat - 87)
  else if 'A' ≤ c && c ≤ 'F' then some (c.toNat - 55)
  else none

def hex4? (a b c d : Char) : Option Nat := do
  let w ← hexValue? a
  let x ← hexValue? b
  let y ← hexValue? c
  let z ← hexValue? d
  pure (((w * 16 + x) * 16 + y) * 16 + z)

def utf8Bytes (c : Char) : List Nat :=
  let n := c.toNat
  if n < 0x80 then [n]
  else if n < 0x800 then [0xC0 + n / 64, 0x80 + n % 64]
  else if n < 0x10000 then [0xE0 + n / 4096, 0x80 + n / 64 % 64, 0x80 + n % 64]
  else [0xF0 + n / 262144, 0x80 + n / 4096 % 64, 0x80 + n / 64 % 64, 0x80 + n % 64]

def takeBytes : Nat → List Char → List Char × List Nat
  | _, [] => ([], [])
  | 0, _ => ([], [])
  | n + 1, c :: cs =>
    let w := (utf8Bytes c).length
    if w ≤ n + 1 then
      let (whole, cut) := takeBytes (n + 1 - w) cs
      (c :: whole, cut)
    else ([], (utf8Bytes c).take (n + 1))

def escapeFault (n : Nat) (cs : List Char) : SyntaxError :=
  let (whole, cut) := takeBytes n cs
  .badEscape whole cut

def isHexDigit (c : Char) : Bool := (hexValue? c).isSome

def hexFault (cs : List Char) : SyntaxError :=
  if (cs.flatMap utf8Bytes).length < 6 then
    if (cs.drop 2).all isHexDigit then .unexpectedEnd else .badEscape cs []
  else escapeFault 6 cs

def escapedChar (n : Nat) : Char :=
  if 0xD800 ≤ n && n < 0xE000 then replacementChar else Char.ofNat n

def shortEscape? (e : Char) : Option Char :=
  if e = '"' then some '"' else if e = '\\' then some '\\' else if e = '/' then some '/'
  else if e = 'b' then some (Char.ofNat 8) else if e = 'f' then some (Char.ofNat 12)
  else if e = 'n' then some '\n' else if e = 'r' then some '\r'
  else if e = 't' then some '\t' else none

def isHighSurrogate (n : Nat) : Bool := 0xD800 ≤ n && n < 0xDC00

def isLowSurrogate (n : Nat) : Bool := 0xDC00 ≤ n && n < 0xE000

def surrogatePair (hi lo : Nat) : Char :=
  Char.ofNat (0x10000 + (hi - 0xD800) * 0x400 + (lo - 0xDC00))

def readStringBody (acc : List Char) : List Char → Read String
  | [] => .error .unexpectedEnd
  | '"' :: rest => .ok (String.ofList acc.reverse, rest)
  | '\\' :: 'u' :: a :: b :: c :: d :: '\\' :: 'u' :: a2 :: b2 :: c2 :: d2 :: rest =>
    match hex4? a b c d with
    | none =>
      .error (hexFault ('\\' :: 'u' :: a :: b :: c :: d :: '\\' :: 'u' :: a2 :: b2 :: c2 :: d2 :: rest))
    | some hi =>
      match hex4? a2 b2 c2 d2 with
      | some lo =>
        if isHighSurrogate hi && isLowSurrogate lo then
          readStringBody (surrogatePair hi lo :: acc) rest
        else readStringBody (escapedChar hi :: acc) ('\\' :: 'u' :: a2 :: b2 :: c2 :: d2 :: rest)
      | none => readStringBody (escapedChar hi :: acc) ('\\' :: 'u' :: a2 :: b2 :: c2 :: d2 :: rest)
  | '\\' :: 'u' :: a :: b :: c :: d :: rest =>
    match hex4? a b c d with
    | none => .error (hexFault ('\\' :: 'u' :: a :: b :: c :: d :: rest))
    | some n => readStringBody (escapedChar n :: acc) rest
  | '\\' :: 'u' :: rest => .error (hexFault ('\\' :: 'u' :: rest))
  | '\\' :: e :: rest =>
    match shortEscape? e with
    | some c => readStringBody (c :: acc) rest
    | none => .error (escapeFault 2 ('\\' :: e :: rest))
  | ['\\'] => .error .unexpectedEnd
  | c :: rest =>
    if c.toNat < 32 then .error (.invalid c "in string") else readStringBody (c :: acc) rest
termination_by cs => cs.length

def readWord (word : String) : List Char → List Char → Except SyntaxError (List Char)
  | [], cs => .ok cs
  | w :: ws, [] => let _ := w; let _ := ws; .error .unexpectedEnd
  | w :: ws, c :: cs =>
    if c = w then readWord word ws cs
    else .error (.invalid c ("in literal " ++ word ++ " (expecting " ++ Text.quoteChar w ++ ")"))

mutual
def readValue (fuel : Nat) (cs : List Char) : Read Json :=
  match fuel with
  | 0 => .error .unexpectedEnd
  | fuel + 1 =>
    match skipBlanks cs with
    | [] => .error .unexpectedEnd
    | c :: rest =>
      if c = '{' then readMembersStart fuel rest
      else if c = '[' then readItemsStart fuel rest
      else if c = '"' then (readStringBody [] rest).map fun (s, r) => (.str s, r)
      else if c = 't' then (readWord "true" ['r', 'u', 'e'] rest).map fun r => (.bool true, r)
      else if c = 'f' then
        (readWord "false" ['a', 'l', 's', 'e'] rest).map fun r => (.bool false, r)
      else if c = 'n' then (readWord "null" ['u', 'l', 'l'] rest).map fun r => (.null, r)
      else if c = '-' || c.isDigit then
        (readNumber (c :: rest)).map fun (n, r) => (.num n, r)
      else .error (.invalid c "looking for beginning of value")

def readItemsStart (fuel : Nat) (cs : List Char) : Read Json :=
  match fuel with
  | 0 => .error .unexpectedEnd
  | fuel + 1 =>
    match skipBlanks cs with
    | ']' :: rest => .ok (.arr [], rest)
    | _ => readItems fuel [] cs

def readItems (fuel : Nat) (acc : List Json) (cs : List Char) : Read Json :=
  match fuel with
  | 0 => .error .unexpectedEnd
  | fuel + 1 =>
    match readValue fuel cs with
    | .error e => .error e
    | .ok (v, r) =>
      match skipBlanks r with
      | ',' :: rest => readItems fuel (v :: acc) rest
      | ']' :: rest => .ok (.arr (v :: acc).reverse, rest)
      | r' => .error (faultAt r' "after array element")

def readMembersStart (fuel : Nat) (cs : List Char) : Read Json :=
  match fuel with
  | 0 => .error .unexpectedEnd
  | fuel + 1 =>
    match skipBlanks cs with
    | '}' :: rest => .ok (.obj [], rest)
    | r => readMembers fuel [] r

def readMembers (fuel : Nat) (acc : List (String × Json)) (cs : List Char) : Read Json :=
  match fuel with
  | 0 => .error .unexpectedEnd
  | fuel + 1 =>
    match skipBlanks cs with
    | '"' :: afterQuote =>
      match readStringBody [] afterQuote with
      | .error e => .error e
      | .ok (key, r) =>
        match skipBlanks r with
        | ':' :: afterColon =>
          match readValue fuel afterColon with
          | .error e => .error e
          | .ok (v, r2) =>
            match skipBlanks r2 with
            | ',' :: rest => readMembers fuel ((key, v) :: acc) rest
            | '}' :: rest => .ok (.obj ((key, v) :: acc).reverse, rest)
            | r3 => .error (faultAt r3 "after object key:value pair")
        | r' => .error (faultAt r' "after object key")
    | r => .error (faultAt r "looking for beginning of object key string")
end

def readPrefix (cs : List Char) : Read Json :=
  if (skipBlanks cs).isEmpty then .error .noValue else readValue (cs.length + 1) cs

def restIsBlank (rest : List Char) : Bool := (skipBlanks rest).isEmpty

end MessageTemplate.Json
