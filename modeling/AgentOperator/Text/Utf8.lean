import AgentOperator.Text.Base64

/-!
AgentOperator.Text.Utf8 — reading octets as UTF-8 text without failing.

Where the octets are no UTF-8, the longest start of a character that they do
hold is replaced by one U+FFFD, and reading goes on behind it (the practice
recommended in section 3.9 of the Unicode standard).
-/

namespace AgentOperator.Utf8

/-- The octets a second octet may be, by the first; `none` if the first starts
no character of several octets. With it the number of octets still to come and
the bits the first octet contributes. -/
def lead? (b : UInt8) : Option (Nat × Nat × Nat × Nat) :=
  let n := b.toNat
  if 0xC2 ≤ n ∧ n ≤ 0xDF then some (0x80, 0xBF, 1, n - 0xC0)
  else if n = 0xE0 then some (0xA0, 0xBF, 2, 0)
  else if n = 0xED then some (0x80, 0x9F, 2, n - 0xE0)
  else if 0xE1 ≤ n ∧ n ≤ 0xEF then some (0x80, 0xBF, 2, n - 0xE0)
  else if n = 0xF0 then some (0x90, 0xBF, 3, 0)
  else if 0xF1 ≤ n ∧ n ≤ 0xF3 then some (0x80, 0xBF, 3, n - 0xF0)
  else if n = 0xF4 then some (0x80, 0x8F, 3, 4)
  else none

/-- Text being read: nothing pending, or a character begun, with the range of
its next octet, the octets to come and the bits so far. -/
inductive Pending where
  | none
  | begun (lo hi toCome bits : Nat)

/-- Takes one octet with no character begun. -/
def start (b : UInt8) : Pending × List Char :=
  if b.toNat < 0x80 then (.none, [Char.ofNat b.toNat])
  else match lead? b with
    | some (lo, hi, toCome, bits) => (.begun lo hi toCome bits, [])
    | none => (.none, ['\uFFFD'])

/-- Takes one octet; gives what is pending after it and the characters it
completes. -/
def step (p : Pending) (b : UInt8) : Pending × List Char :=
  match p with
  | .none => start b
  | .begun lo hi toCome bits =>
    if lo ≤ b.toNat ∧ b.toNat ≤ hi then
      let bits := bits * 64 + (b.toNat - 0x80)
      if toCome = 1 then (.none, [Char.ofNat bits]) else (.begun 0x80 0xBF (toCome - 1) bits, [])
    else
      let (p, cs) := start b
      (p, '\uFFFD' :: cs)

def decodeFrom (p : Pending) : Bytes → List Char
  | [] =>
    match p with
    | .none => []
    | .begun .. => ['\uFFFD']
  | b :: bs => (step p b).2 ++ decodeFrom (step p b).1 bs

/-- The text the octets hold. -/
def decodeLossy (bytes : Bytes) : String := String.ofList (decodeFrom .none bytes)

/-- The octets of a text. -/
def encode (s : String) : Bytes := s.toUTF8.toList

/-- Whether octets are the octets of a text: then nothing is replaced. -/
def isText (bytes : Bytes) : Bool := decide (encode (decodeLossy bytes) = bytes)

end AgentOperator.Utf8
