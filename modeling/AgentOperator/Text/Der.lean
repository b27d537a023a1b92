import AgentOperator.Text.Utf8

/-!
AgentOperator.Text.Der — octet strings as nested elements (X.690), and shapes
that elements can have.

An element has a tag, which is a number in one of four classes, and a content;
that of a constructed element is made of elements again. `Shape` says what an
element is to be, as far as its outer form goes. Lengths may be written in any
of the basic encodings, also open-ended, and strings may be put together from
pieces.
-/

namespace AgentOperator.Der

/-! ## Elements -/

/-- What stands before the content of an element. -/
structure Header where
  /-- The class of the tag: 0 for what every text means the same by, 2 for what
  depends on the context. -/
  family : Nat
  constructed : Bool
  number : Nat
  /-- `none` if the content goes on to a mark. -/
  length : Option Nat
deriving DecidableEq

structure Element where
  family : Nat
  constructed : Bool
  number : Nat
  content : Bytes
  /-- The content ends at a mark. -/
  openEnded : Bool
deriving DecidableEq

/-- A number in octets, the highest first. -/
def bigEndian (bytes : Bytes) : Nat := bytes.foldl (fun n b => n * 256 + b.toNat) 0

/-- The number of a tag in groups of seven bits, and what follows it. -/
def longNumber? (n : Nat) : Bytes → Option (Nat × Bytes)
  | [] => none
  | b :: rest =>
    let m := n * 128 + b.toNat % 128
    if 2 ^ 31 ≤ m then none
    else if b.toNat < 128 then some (m, rest)
    else longNumber? m rest

/-- A length, and what follows it. A length of 128 and more has its own octets,
of which eight count at most and behind which something has to follow, here or
beyond the end of these octets; without octets the content is open-ended. -/
def length? (beyond : Bool) : Bytes → Option (Option Nat × Bytes)
  | [] => none
  | b :: rest =>
    if b.toNat < 128 then some (some b.toNat, rest)
    else if b.toNat = 128 then some (none, rest)
    else
      let count := b.toNat - 128
      let octets := rest.take count
      if (count < rest.length ∨ (beyond ∧ count = rest.length)) ∧ (octets.dropWhile (· = 0)).length ≤ 8 then
        some (some (bigEndian octets), rest.drop count)
      else none

/-- The header at the start, and what follows it. Only a constructed element is
open-ended. -/
def header? (beyond : Bool) : Bytes → Option (Header × Bytes)
  | [] => none
  | b :: rest => do
    let number := b.toNat % 32
    let (number, rest) ← if number = 31 then longNumber? 0 rest else some (number, rest)
    let (length, rest) ← length? beyond rest
    let constructed := b.toNat / 32 % 2 = 1
    if constructed ∨ length.isSome then
      some (⟨b.toNat / 64, constructed, number, length⟩, rest)
    else none

/-- What follows the mark that ends an open-ended content, when `inner` more of
them are open inside. The fuel bounds the elements passed. -/
def afterEnd? : (fuel inner : Nat) → Bytes → Option Bytes
  | 0, _, _ => none
  | fuel + 1, inner, bytes =>
    match bytes with
    | 0 :: 0 :: rest =>
      match inner with
      | 0 => some rest
      | inner + 1 => afterEnd? fuel inner rest
    | bytes =>
      match header? false bytes with
      | none => none
      | some (h, rest) =>
        match h.length with
        | none => afterEnd? fuel (inner + 1) rest
        | some n => if n ≤ rest.length then afterEnd? fuel inner (rest.drop n) else none

/-- The first element, and what follows it. -/
def element? (beyond : Bool) (bytes : Bytes) : Option (Element × Bytes) := do
  let (h, rest) ← header? beyond bytes
  match h.length with
  | some n =>
    if n ≤ rest.length then
      some (⟨h.family, h.constructed, h.number, rest.take n, false⟩, rest.drop n)
    else none
  | none =>
    let after ← afterEnd? (rest.length + 1) 0 rest
    let content := rest.take (rest.length - after.length - 2)
    some (⟨h.family, h.constructed, h.number, content, true⟩, after)

/-- Elements one behind the other. The fuel bounds their number. -/
def readElements (beyond : Bool) : (fuel : Nat) → Bytes → Option (List Element)
  | _, [] => some []
  | 0, _ :: _ => none
  | fuel + 1, bytes => do
    let (e, rest) ← element? beyond bytes
    return e :: (← readElements beyond fuel rest)

/-- The elements that the content of an element is made of. -/
def Element.parts? (e : Element) : Option (List Element) :=
  readElements e.openEnded e.content.length e.content

/-! ## Contents -/

def booleanNumber : Nat := 1
def integerNumber : Nat := 2
def bitStringNumber : Nat := 3
def octetStringNumber : Nat := 4
def nullNumber : Nat := 5
def objectIdNumber : Nat := 6
def enumeratedNumber : Nat := 10
def utf8Number : Nat := 12
def sequenceNumber : Nat := 16
def setNumber : Nat := 17
def wideStringNumber : Nat := 28
def pairStringNumber : Nat := 30

/-- An integer has no superfluous octet in front. -/
def isInteger : Bytes → Bool
  | [] => false
  | [_] => true
  | a :: b :: rest =>
    let superfluous := a = 0 ∨ (a = 255 ∧ (b :: rest).any (· ≠ 0))
    !(superfluous && (a.toNat < 128) == (b.toNat < 128))

/-- Whether every number of an object identifier is complete and has no
superfluous octet in front; `inside` tells that one has begun. -/
def isObjectId (inside : Bool) : Bytes → Bool
  | [] => !inside
  | b :: rest => (inside || b != 128) && isObjectId (decide (128 ≤ b.toNat)) rest

/-- How many bits the last octet leaves unused stands first in a bit string. -/
def isBitString : Bytes → Bool
  | [] => false
  | unused :: _ => decide (unused.toNat < 8)

/-- Whether octets are a content for a number of the first family. -/
def isContent (number : Nat) (content : Bytes) : Bool :=
  if number = booleanNumber then content.length = 1
  else if number = integerNumber ∨ number = enumeratedNumber then isInteger content
  else if number = bitStringNumber then isBitString content
  else if number = nullNumber then content.isEmpty
  else if number = objectIdNumber then !content.isEmpty && isObjectId false content
  else if number = wideStringNumber then content.length % 4 = 0
  else if number = pairStringNumber then content.length % 2 = 0
  else true

/-- How deep the pieces of a string may nest. -/
def maxPieces : Nat := 5

/-- The octets of the pieces that a string is put together from. -/
def joinPieces : (depth : Nat) → Element → Option Bytes
  | 0, _ => none
  | depth + 1, e => do
    let pieces ← e.parts?
    let octets ← pieces.mapM fun piece =>
      if piece.constructed then joinPieces depth piece else some piece.content
    return octets.flatten

/-- The octets of a string, which may be put together from pieces. -/
def octets? (e : Element) : Option Bytes :=
  if e.constructed then joinPieces maxPieces e else some e.content

/-- The numbers of what is never put together from pieces. -/
def undivided : List Nat :=
  [booleanNumber, integerNumber, nullNumber, objectIdNumber, enumeratedNumber]

/-- Whether an element holds what something with a number of the first family
is to hold. Sequences and sets are not looked into. -/
def holds (number : Nat) (e : Element) : Bool :=
  if number = sequenceNumber ∨ number = setNumber then e.constructed
  else !(e.constructed && undivided.contains number) && (octets? e).any (isContent number)

/-- Whether octets are characters of two octets each. -/
def isPairText : Bytes → Bool
  | [] => true
  | a :: b :: rest => decide (bigEndian [a, b]).isValidChar && isPairText rest
  | _ => false

/-- Whether octets are characters of four octets each. -/
def isWideText : Bytes → Bool
  | [] => true
  | a :: b :: c :: d :: rest => decide (bigEndian [a, b, c, d]).isValidChar && isWideText rest
  | _ => false

/-- Whether octets are a text in the form that a number of the first family
stands for. In most forms every octet is a character. -/
def isTextIn (number : Nat) (octets : Bytes) : Bool :=
  if number = utf8Number then Utf8.isText octets
  else if number = wideStringNumber then isWideText octets
  else if number = pairStringNumber then isPairText octets
  else true

/-- Whether an element that is to be a text is one. -/
def isFaithful (e : Element) : Bool :=
  e.number = sequenceNumber || (octets? e).any (isTextIn e.number)

/-! ## Shapes -/

inductive Shape where
  | anything
  /-- An element with one of these numbers of the first family. -/
  | oneOf (numbers : List Nat)
  /-- A bit string under a number that depends on the context. -/
  | bitsAt (number : Nat)
  /-- An element with one element inside, under a number that depends on the
  context. -/
  | wrapped (number : Nat) (inner : Shape)
  /-- Members in order; those marked may be left out. -/
  | sequence (members : List (Bool × Shape))
  /-- Any number of items, under a number of the first family, whether or not
  they are said to be elements. -/
  | many (number : Nat) (item : Shape)

namespace Shape

/-- Whether an element has the tag that a shape asks for. -/
def admits (e : Element) : Shape → Bool
  | .anything => true
  | .oneOf numbers => e.family = 0 && numbers.contains e.number
  | .bitsAt number | .wrapped number _ => e.family = 2 && e.number = number
  | .sequence _ => e.family = 0 && e.number = sequenceNumber
  | .many number _ => e.family = 0 && e.number = number

mutual

/-- Whether an element has a shape. -/
def fits (e : Element) : Shape → Bool
  | .anything => e.family != 0 || holds e.number e
  | .oneOf numbers => admits e (.oneOf numbers) && holds e.number e && isFaithful e
  | .bitsAt number => admits e (.bitsAt number) && holds bitStringNumber e
  | .wrapped number inner =>
    admits e (.wrapped number inner) && e.constructed &&
      match e.parts? with
      | some [x] => fits x inner
      | _ => false
  | .sequence members =>
    admits e (.sequence members) && e.constructed &&
      match e.parts? with
      | some xs => fitMembers xs members
      | none => false
  | .many number item =>
    admits e (.many number item) &&
      match e.parts? with
      | some xs => xs.all fun x => fits x item
      | none => false

/-- Whether elements are the members of a sequence. -/
def fitMembers : List Element → List (Bool × Shape) → Bool
  | [], [] => true
  | _ :: _, [] => false
  | [], (optional, _) :: members => optional && fitMembers [] members
  | x :: xs, (optional, shape) :: members =>
    if admits x shape then fits x shape && fitMembers xs members
    else optional && fitMembers (x :: xs) members

end

/-- An element with one number of the first family. -/
def one (number : Nat) : Shape := .oneOf [number]

end Shape

end AgentOperator.Der
