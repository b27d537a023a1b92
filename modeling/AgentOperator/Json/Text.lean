import AgentOperator.Json.Double
import AgentOperator.Json.Source

/-!
AgentOperator.Json.Text — reading and writing JSON text (RFC 8259).

`Source.parse?` accepts exactly one value with blanks around it and marks what
cannot be read in it; `parse?` is for texts that are read whole. `render`
writes a value without blanks. Each reading function takes as fuel a bound on
the characters left, which no reading exceeds.
-/

namespace AgentOperator.Json

/-! ## Reading -/

/-- How deep arrays and objects that are read may nest. -/
def maxDepth : Nat := 127

def isBlank (c : Char) : Bool := c = ' ' || c = '\n' || c = '\t' || c = '\r'

def skipBlanks (cs : List Char) : List Char := cs.dropWhile isBlank

def hexDigit? (c : Char) : Option Nat :=
  if '0' ≤ c ∧ c ≤ '9' then some (c.toNat - '0'.toNat)
  else if 'a' ≤ c ∧ c ≤ 'f' then some (c.toNat - 'a'.toNat + 10)
  else if 'A' ≤ c ∧ c ≤ 'F' then some (c.toNat - 'A'.toNat + 10)
  else none

def hex4? (a b c d : Char) : Option Nat := do
  return (((← hexDigit? a) * 16 + (← hexDigit? b)) * 16 + (← hexDigit? c)) * 16 + (← hexDigit? d)

/-- The character of a one-letter escape. -/
def simpleEscape? : Char → Option Char
  | '"' => some '"'
  | '\\' => some '\\'
  | '/' => some '/'
  | 'b' => some '\x08'
  | 'f' => some '\x0c'
  | 'n' => some '\n'
  | 'r' => some '\r'
  | 't' => some '\t'
  | _ => none

def isHighSurrogate (unit : Nat) : Bool := decide (0xD800 ≤ unit) && decide (unit < 0xDC00)

def isLowSurrogate (unit : Nat) : Bool := decide (0xDC00 ≤ unit) && decide (unit < 0xE000)

/-- The character that a pair of surrogates stands for. -/
def ofSurrogates (high low : Nat) : Char :=
  Char.ofNat (0x10000 + (high - 0xD800) * 0x400 + (low - 0xDC00))

/-- The code points in the rest of a string after its opening quote, and what
follows it. A pair of escaped surrogates is still two of them. -/
def readPoints : List Char → Option (List Nat × List Char)
  | '"' :: cs => some ([], cs)
  | '\\' :: 'u' :: a :: b :: c :: d :: cs =>
    match hex4? a b c d with
    | none => none
    | some n => (readPoints cs).map fun r => (n :: r.1, r.2)
  | '\\' :: e :: cs =>
    match simpleEscape? e with
    | none => none
    | some c => (readPoints cs).map fun r => (c.toNat :: r.1, r.2)
  | c :: cs =>
    if c = '\\' ∨ c.toNat < 0x20 then none
    else (readPoints cs).map fun r => (c.toNat :: r.1, r.2)
  | [] => none

/-- The text of code points. A pair of surrogates is one character; half a pair
has no text. -/
def textOf? : List Nat → Option (List Char)
  | [] => some []
  | n :: ns =>
    if isLowSurrogate n then none
    else if isHighSurrogate n then
      match ns with
      | [] => none
      | low :: ns =>
        if isLowSurrogate low then (textOf? ns).map (ofSurrogates n low :: ·) else none
    else (textOf? ns).map (Char.ofNat n :: ·)

/-- The rest of a string after its opening quote, if it has a text, and what
follows it. -/
def readString (cs : List Char) : Option (Option String × List Char) :=
  (readPoints cs).map fun (ns, cs) => ((textOf? ns).map String.ofList, cs)

/-- A run of digits and what follows it. -/
def readDigits (cs : List Char) : List Char × List Char := cs.span Char.isDigit

/-- The fraction of a number, if there is one: a point and at least one digit. -/
def readFraction : List Char → Option (Option (List Char) × List Char)
  | '.' :: cs =>
    match readDigits cs with
    | ([], _) => none
    | (ds, rest) => some (some ds, rest)
  | cs => some (none, cs)

/-- The exponent of a number, if there is one. -/
def readExponent : List Char → Option (Option Int × List Char)
  | c :: cs =>
    if c = 'e' ∨ c = 'E' then
      let (negative, cs) : Bool × List Char := match cs with
        | '+' :: cs => (false, cs)
        | '-' :: cs => (true, cs)
        | cs => (false, cs)
      match readDigits cs with
      | ([], _) => none
      | (ds, rest) =>
        let e : Int := Nat.ofDigitChars 10 ds 0
        some (some (if negative then -e else e), rest)
    else some (none, c :: cs)
  | [] => some (none, [])

/-- The number a literal stands for, unless it is too large. -/
def numberOf? (negative : Bool) (whole : List Char) (fraction : Option (List Char))
    (exponent : Option Int) : Option Number :=
  let magnitude : Int := Nat.ofDigitChars 10 whole 0
  let value := if negative then -magnitude else magnitude
  if fraction.isNone && exponent.isNone && fitsWord value && !(negative && value = 0) then
    some (.int value)
  else
    (Double.ofLiteral? whole (fraction.getD []) (exponent.getD 0)).map fun x =>
      let (digits, scale) := Double.shortest x
      .decimal (if negative then -digits else digits) scale

/-- A number, unless it is too large, and what follows it: no superfluous
leading zero, digits on both sides of a point. -/
def readNumber (cs : List Char) : Option (Option Number × List Char) := do
  let (negative, cs) : Bool × List Char := match cs with
    | '-' :: cs => (true, cs)
    | cs => (false, cs)
  let (whole, cs) := readDigits cs
  if whole.isEmpty ∨ (whole.length > 1 ∧ whole.head? = some '0') then none
  let (fraction, cs) ← readFraction cs
  let (exponent, cs) ← readExponent cs
  return (numberOf? negative whole fraction exponent, cs)

/-- The text behind a fixed word. -/
def afterWord (word : List Char) (cs : List Char) : Option (List Char) :=
  if word.isPrefixOf cs then some (cs.drop word.length) else none

/-- A part that is a value if it can be read. -/
def Source.ofReadable (j : Option Json) : Source :=
  match j with
  | some j => .value j
  | none => .unreadable

/-- An array or object, of which the innermost that may be read has depth one. -/
def Source.atDepth : Nat → Source → Source
  | 0, _ => .unreadable
  | _ + 1, s => s

mutual

/-- One value, after any blanks. -/
def readValue : (fuel depth : Nat) → List Char → Option (Source × List Char)
  | 0, _, _ => none
  | fuel + 1, depth, cs =>
    match skipBlanks cs with
    | 'n' :: cs => (afterWord ['u', 'l', 'l'] cs).map (.value .null, ·)
    | 't' :: cs => (afterWord ['r', 'u', 'e'] cs).map (.value (.bool true), ·)
    | 'f' :: cs => (afterWord ['a', 'l', 's', 'e'] cs).map (.value (.bool false), ·)
    | '"' :: cs => (readString cs).map fun (s, cs) =>
      (.ofReadable (s.map .str), cs)
    | '[' :: cs =>
      match skipBlanks cs with
      | ']' :: cs => some (.atDepth depth (.arr []), cs)
      | cs => (readItems fuel (depth - 1) cs).map fun (xs, cs) => (.atDepth depth (.arr xs), cs)
    | '\x7b' :: cs =>
      match skipBlanks cs with
      | '\x7d' :: cs => some (.atDepth depth (.obj []), cs)
      | cs => (readMembers fuel (depth - 1) cs).map fun (ms, cs) => (.atDepth depth (.obj ms), cs)
    | cs => (readNumber cs).map fun (n, cs) => (.ofReadable (n.map .num), cs)

/-- The items of an array up to its closing bracket. -/
def readItems : (fuel depth : Nat) → List Char → Option (List Source × List Char)
  | 0, _, _ => none
  | fuel + 1, depth, cs => do
    let (x, cs) ← readValue fuel depth cs
    match skipBlanks cs with
    | ',' :: cs => (readItems fuel depth cs).map fun (xs, cs) => (x :: xs, cs)
    | ']' :: cs => some ([x], cs)
    | _ => none

/-- The members of an object up to its closing brace. -/
def readMembers : (fuel depth : Nat) → List Char →
    Option (List (Option String × Source) × List Char)
  | 0, _, _ => none
  | fuel + 1, depth, cs =>
    match skipBlanks cs with
    | '"' :: cs => do
      let (name, cs) ← readString cs
      match skipBlanks cs with
      | ':' :: cs =>
        let (x, cs) ← readValue fuel depth cs
        match skipBlanks cs with
        | ',' :: cs => (readMembers fuel depth cs).map fun (ms, cs) => ((name, x) :: ms, cs)
        | '\x7d' :: cs => some ([(name, x)], cs)
        | _ => none
      | _ => none
    | _ => none

end

/-- What a text holds, with nothing but blanks around it. -/
def Source.parse? (text : String) : Option Source :=
  let cs := text.toList
  match readValue (cs.length + 1) maxDepth cs with
  | some (s, rest) => if (skipBlanks rest).isEmpty then some s else none
  | none => none

/-- The value a text stands for when it is read whole. -/
def parse? (text : String) : Option Json := (Source.parse? text).bind Source.whole?

/-! ## Writing -/

def hexDigits : List Char :=
  ['0', '1', '2', '3', '4', '5', '6', '7', '8', '9', 'a', 'b', 'c', 'd', 'e', 'f']

/-- A character inside a string: quotes, backslashes and control characters
are escaped. -/
def escapeChar (c : Char) : List Char :=
  match c with
  | '"' => ['\\', '"']
  | '\\' => ['\\', '\\']
  | '\n' => ['\\', 'n']
  | '\r' => ['\\', 'r']
  | '\t' => ['\\', 't']
  | '\x08' => ['\\', 'b']
  | '\x0c' => ['\\', 'f']
  | c =>
    if c.toNat < 0x20 then
      ['\\', 'u', '0', '0', hexDigits.getD (c.toNat / 16) '0', hexDigits.getD (c.toNat % 16) '0']
    else [c]

def renderString (acc : String) (s : String) : String :=
  (s.foldl (fun acc c => (escapeChar c).foldl String.push acc) (acc.push '"')).push '"'

def renderNumber (acc : String) : Number → String
  | .int i => acc ++ toString i
  | .decimal m e => (acc ++ toString m).push 'e' ++ toString e

mutual

/-- Writes a value behind `acc`. -/
def renderValue (acc : String) : Json → String
  | .null => acc ++ "null"
  | .bool true => acc ++ "true"
  | .bool false => acc ++ "false"
  | .num n => renderNumber acc n
  | .str s => renderString acc s
  | .arr [] => acc ++ "[]"
  | .arr (x :: xs) => (renderItems (renderValue (acc.push '[') x) xs).push ']'
  | .obj [] => (acc.push '\x7b').push '\x7d'
  | .obj ((k, x) :: ms) =>
    (renderMembers (renderValue ((renderString (acc.push '\x7b') k).push ':') x) ms).push '\x7d'

/-- Writes the further items of an array. -/
def renderItems (acc : String) : List Json → String
  | [] => acc
  | x :: xs => renderItems (renderValue (acc.push ',') x) xs

/-- Writes the further members of an object. -/
def renderMembers (acc : String) : List (String × Json) → String
  | [] => acc
  | (k, x) :: ms => renderMembers (renderValue ((renderString (acc.push ',') k).push ':') x) ms

end

/-- The text of a value. -/
def render (j : Json) : String := renderValue "" j

end AgentOperator.Json
