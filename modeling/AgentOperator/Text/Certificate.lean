import AgentOperator.Text.Der

/-!
AgentOperator.Text.Certificate — the shape of X.509 certificates (RFC 5280).

A certificate is told by its shape alone: neither its signature nor its dates
and names are checked.
-/

namespace AgentOperator.Certificate

open Der (Shape)

/-- Members that must be there. -/
def always (shapes : List Shape) : List (Bool × Shape) := shapes.map ((false, ·))

/-- An algorithm and its parameters, if it has any. -/
def algorithm : Shape :=
  .sequence [(false, .one Der.objectIdNumber), (true, .anything)]

/-- The numbers of the kinds of text that names are written in, and of what is
taken for text. -/
def nameTexts : List Nat := [3, 7, 8, 9, 11, 12, 13, 14, 15, 16, 18, 19, 20, 22, 28, 29, 30]

def name : Shape :=
  .many Der.sequenceNumber <| .many Der.setNumber <|
    .sequence (always [.one Der.objectIdNumber, .oneOf nameTexts])

/-- A time with a year of two or of four digits. -/
def time : Shape := .oneOf [23, 24]

def publicKey : Shape := .sequence (always [algorithm, .one Der.bitStringNumber])

def extension : Shape :=
  .sequence [(false, .one Der.objectIdNumber), (true, .one Der.booleanNumber),
    (false, .one Der.octetStringNumber)]

/-- The part that is signed: version, number, algorithm, issuer, dates, subject,
key, and what was added in later versions. -/
def signedPart : Shape := .sequence <|
  [(true, .wrapped 0 (.one Der.integerNumber))] ++
  always [.one Der.integerNumber, algorithm, name, .sequence (always [time, time]), name,
    publicKey] ++
  [(true, .bitsAt 1), (true, .bitsAt 2),
    (true, .wrapped 3 (.many Der.sequenceNumber extension))]

def shape : Shape := .sequence (always [signedPart, algorithm, .one Der.bitStringNumber])

/-- Whether octets begin with a certificate. -/
def isCertificate (bytes : Bytes) : Bool :=
  (Der.element? false bytes).any fun (e, _) => shape.fits e

end AgentOperator.Certificate
