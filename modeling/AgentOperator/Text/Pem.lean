import AgentOperator.Text.Base64

/-!
AgentOperator.Text.Pem — texts that carry octets in labelled sections (RFC
7468).

A section begins with a line `-----BEGIN label-----`, ends with a line
`-----END label-----` and holds base64 in between. Lines outside of sections
are skipped, and so are sections with a label that is not known.
-/

namespace AgentOperator.Pem

/-! ## Lines -/

/-- The lines of a text; a line ends at a line feed or at a carriage return. -/
def lines : List Char → List (List Char)
  | [] => [[]]
  | '\n' :: cs => [] :: lines cs
  | '\r' :: cs => [] :: lines cs
  | c :: cs =>
    match lines cs with
    | line :: rest => (c :: line) :: rest
    | [] => [[c]]

/-- What follows a start. -/
def after? (start : List Char) (cs : List Char) : Option (List Char) :=
  if start.isPrefixOf cs then some (cs.drop start.length) else none

def dashes : List Char := List.replicate 5 '-'

def beginMark : List Char := dashes ++ "BEGIN ".toList

def endMark : List Char := dashes ++ "END ".toList

/-- The label behind the mark of a first line. Behind it stand five dashes, with
any blanks between and after them. -/
def label? (rest : List Char) : Option (List Char) :=
  let trailer := rest.reverse.takeWhile fun c => c = '-' || c = ' '
  let fromDash := trailer.reverse.dropWhile (· = ' ')
  if fromDash.count '-' = 5 then some (rest.take (rest.length - fromDash.length)) else none

/-- Whether a line ends the section with a label. -/
def endsSection (label line : List Char) : Bool :=
  ((after? endMark line).bind (after? label)).any fun rest => (after? dashes rest).isSome

/-! ## Sections -/

/-- The labels of sections whose contents are looked at. -/
def knownLabels : List (List Char) :=
  ["CERTIFICATE", "PUBLIC KEY", "RSA PRIVATE KEY", "PRIVATE KEY", "EC PRIVATE KEY", "X509 CRL",
    "CERTIFICATE REQUEST", "ECHCONFIG"].map String.toList

/-- Characters that may stand anywhere in base64: blanks and the control
characters that move to another place. -/
def isFiller (c : Char) : Bool := c = ' ' || ('\t' ≤ c && c ≤ '\r')

/-- The octets of base64 in a section. The padding may be left out, and the bits
it leaves over do not matter. -/
def decode? : List Char → Option Bytes
  | [] => some []
  | [a, b] | [a, b, '=', '='] => do
    let x ← Base64.digit? a
    let y ← Base64.digit? b
    return [UInt8.ofNat (x * 4 + y / 16)]
  | [a, b, c] | [a, b, c, '='] => do
    let x ← Base64.digit? a
    let y ← Base64.digit? b
    let z ← Base64.digit? c
    return [UInt8.ofNat (x * 4 + y / 16), UInt8.ofNat (y % 16 * 16 + z / 4)]
  | a :: b :: c :: d :: rest => do
    let x ← Base64.digit? a
    let y ← Base64.digit? b
    let z ← Base64.digit? c
    let w ← Base64.digit? d
    return UInt8.ofNat (x * 4 + y / 16) :: UInt8.ofNat (y % 16 * 16 + z / 4) ::
      UInt8.ofNat (z % 4 * 64 + w) :: (← decode? rest)
  | _ => none

/-- The known sections of a list of lines with what they hold; `none` if a
section is not well formed. The state is the open section's label, if there is
one, and the base64 read so far. -/
def readLines : (opened : Option (List Char)) → (held : List Char) → List (List Char) →
    Option (List (List Char × Bytes))
  | none, _, [] => some []
  | some _, _, [] => none
  | opened, held, line :: rest =>
    match after? beginMark line with
    | some mark => do
      let label ← label? mark
      readLines (some label) held rest
    | none =>
      match opened with
      | none => readLines none held rest
      | some label =>
        if endsSection label line then
          if label ∈ knownLabels then do
            let content ← decode? held
            let more ← readLines none [] rest
            return (label, content) :: more
          else readLines none [] rest
        else readLines (some label) (held ++ line.filter fun c => !isFiller c) rest

/-- The known sections of a text. -/
def read? (text : String) : Option (List (List Char × Bytes)) :=
  readLines none [] (lines text.toList)

/-- What the certificate sections of a text hold. -/
def certificates? (text : String) : Option (List Bytes) :=
  (read? text).map fun sections =>
    (sections.filter fun s => s.1 = "CERTIFICATE".toList).map (·.2)

end AgentOperator.Pem
