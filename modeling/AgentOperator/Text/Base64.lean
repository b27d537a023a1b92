/-!
AgentOperator.Text.Base64 — octet strings and their base64 form (RFC 4648).

Only the canonical form is read: every group of four characters is complete,
padding stands at the end alone, and the bits it leaves over are zero. So each
octet string has one text, and every text that is read is that text.
-/

namespace AgentOperator

/-- A string of octets. -/
abbrev Bytes := List UInt8

namespace Base64

/-- The value of a character of the alphabet, below 64. -/
def digit? (c : Char) : Option Nat :=
  if 'A' ≤ c ∧ c ≤ 'Z' then some (c.toNat - 65)
  else if 'a' ≤ c ∧ c ≤ 'z' then some (c.toNat - 97 + 26)
  else if '0' ≤ c ∧ c ≤ '9' then some (c.toNat - 48 + 52)
  else if c = '+' then some 62
  else if c = '/' then some 63
  else none

/-- The character of the alphabet with a value. -/
def ofDigit (n : Nat) : Char :=
  if n < 26 then Char.ofNat (n + 65)
  else if n < 52 then Char.ofNat (n - 26 + 97)
  else if n < 62 then Char.ofNat (n - 52 + 48)
  else if n = 62 then '+'
  else '/'

/-- The text of an octet string. -/
def encode : Bytes → List Char
  | [] => []
  | [a] => [ofDigit (a.toNat / 4), ofDigit (a.toNat % 4 * 16), '=', '=']
  | [a, b] =>
    [ofDigit (a.toNat / 4), ofDigit (a.toNat % 4 * 16 + b.toNat / 16),
      ofDigit (b.toNat % 16 * 4), '=']
  | a :: b :: c :: rest =>
    ofDigit (a.toNat / 4) :: ofDigit (a.toNat % 4 * 16 + b.toNat / 16) ::
      ofDigit (b.toNat % 16 * 4 + c.toNat / 64) :: ofDigit (c.toNat % 64) :: encode rest

/-- The octets of a text in canonical form. -/
def decode? : List Char → Option Bytes
  | [] => some []
  | [a, b, '=', '='] => do
    let x ← digit? a
    let y ← digit? b
    if y % 16 = 0 then some [UInt8.ofNat (x * 4 + y / 16)] else none
  | [a, b, c, '='] => do
    let x ← digit? a
    let y ← digit? b
    let z ← digit? c
    if z % 4 = 0 then
      some [UInt8.ofNat (x * 4 + y / 16), UInt8.ofNat (y % 16 * 16 + z / 4)]
    else none
  | a :: b :: c :: d :: rest => do
    let x ← digit? a
    let y ← digit? b
    let z ← digit? c
    let w ← digit? d
    let more ← decode? rest
    some (UInt8.ofNat (x * 4 + y / 16) :: UInt8.ofNat (y % 16 * 16 + z / 4) ::
      UInt8.ofNat (z % 4 * 64 + w) :: more)
  | _ => none

end Base64

end AgentOperator
