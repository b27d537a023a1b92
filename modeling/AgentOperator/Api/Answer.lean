import AgentOperator.Kube.Meta

/-!
AgentOperator.Api.Answer — what the API server's answers hold.

Most answers are objects whose kind was asked for, and are read as that kind.
The others are here: objects of which little is known, lists of objects, the
status that takes the place of a deleted object, and the report of a failure.
-/

namespace AgentOperator.Api

open Kube (ObjectMeta)

/-! ## Objects of any kind -/

/-- The members that say what an object is. -/
def typeMembers : List String := ["apiVersion", "kind"]

/-- Drops what an object says it is, as far as it says it: up to the first such
member that is no string or is repeated. -/
def dropTypes (seen : List String) : List (String × Json) → List (String × Json)
  | [] => []
  | (name, j) :: members =>
    if name ∈ typeMembers then
      match j with
      | .str _ => if name ∈ seen then members else dropTypes (name :: seen) members
      | _ => members
    else (name, j) :: dropTypes seen members

/-- Whether an object says what it is, once and wholly. -/
def saysType (members : List (String × Json)) : Bool :=
  match members.filter (·.1 ∈ typeMembers) with
  | [(a, .str _), (b, .str _)] => a != b
  | _ => false

/-- What an object says it is counts only as a whole: without its API version
or without its kind it says nothing. -/
def settleTypes (members : List (String × Json)) : List (String × Json) :=
  if saysType members then members else dropTypes [] members

/-- The metadata among the members of an object. -/
def metadataAmong (members : List (String × Json.Source)) : Except WireError ObjectMeta :=
  match members.filter (·.1 = "metadata") with
  | [] => .ok {}
  | [(_, s)] => ObjectMeta.codec.read s
  | _ => .error (.inside "metadata" (.expected "one value"))

/-- The members of an object beside its metadata, read whole. -/
def othersAmong (members : List (String × Json.Source)) :
    Except WireError (List (String × Json)) :=
  (members.filter (·.1 ≠ "metadata")).mapM fun (name, s) =>
    match s.whole? with
    | some j => .ok (name, j)
    | none => .error (.inside name (.expected "readable JSON"))

/-- An object with metadata, of which nothing else is known. -/
def anyObject (s : Json.Source) : Except WireError Json :=
  match s.members? with
  | none => .error (.expected "an object")
  | some members => do
    let metadata ← metadataAmong members
    let others ← othersAmong members
    let object := Json.object (settleTypes others)
    return object.setMember "metadata" (ObjectMeta.codec.encode metadata)

/-- The metadata of an object, of which nothing else is kept. -/
def metadataOnly : Codec ObjectMeta :=
  Record.openCodec (.defaulted "metadata" id ObjectMeta.codec {})

/-! ## Lists -/

def listMetadata : Schema := .object
  [Schema.opt "continue" .string, Schema.opt "remainingItemCount" .int64,
    Schema.opt "resourceVersion" .string, Schema.opt "selfLink" .string]

/-- A list of objects, of which the items are kept. -/
def objectList (c : Codec α) : Codec (List α) := Record.openCodec <|
  (fun _ items => items.getD [])
    <$> .defaulted "metadata" (fun _ => default) (Carried.codec (s := listMetadata)) default
    <*> .mandatory "items" some c.list.nullable

/-! ## Statuses -/

/-- One reason for a status. -/
structure StatusCause where
  reason : String := ""
  message : String := ""
  field : String := ""
deriving DecidableEq

def StatusCause.codec : Codec StatusCause := Record.positionalCodec <|
  StatusCause.mk <$> .defaulted "reason" (·.reason) .string ""
    <*> .defaulted "message" (·.message) .string ""
    <*> .defaulted "field" (·.field) .string ""

/-- What a status is about. -/
structure StatusDetails where
  name : String := ""
  group : String := ""
  kind : String := ""
  uid : String := ""
  causes : List StatusCause := []
  retryAfterSeconds : UInt32 := 0
deriving DecidableEq

def StatusDetails.codec : Codec StatusDetails := Record.positionalCodec <|
  StatusDetails.mk <$> .defaulted "name" (·.name) .string ""
    <*> .defaulted "group" (·.group) .string ""
    <*> .defaulted "kind" (·.kind) .string ""
    <*> .defaulted "uid" (·.uid) .string ""
    <*> .defaulted "causes" (·.causes) (.list StatusCause.codec) []
    <*> .defaulted "retryAfterSeconds" (·.retryAfterSeconds) .uint32 0

/-- What a server says of a deletion that leaves nothing to show. -/
structure StatusReport where
  success : Option Bool := none
  code : UInt16 := 0
  message : String := ""
  reason : String := ""
  details : Option StatusDetails := none
deriving DecidableEq

/-- The word `Success` or `Failure`, alone or as the only member of an object,
with null as its value. -/
def successCodec : Codec Bool where
  encode b := .str (if b then "Success" else "Failure")
  decode
    | .str "Success" | .obj [("Success", .null)] => .ok true
    | .str "Failure" | .obj [("Failure", .null)] => .ok false
    | _ => .error (.expected "Success or Failure")
  outline := .record { readsUnknown := true } [("Success", .whole), ("Failure", .whole)]

def StatusReport.codec : Codec StatusReport := Record.positionalCodec <|
  StatusReport.mk <$> .optional "status" (·.success) successCodec
    <*> .defaulted "code" (·.code) .uint16 0
    <*> .defaulted "message" (·.message) .string ""
    <*> .defaulted "reason" (·.reason) .string ""
    <*> .optional "details" (·.details) StatusDetails.codec

/-- The answer to a deletion: a status, or the object that was deleted. Which of
them it is shows only in the whole. -/
def deletionAnswer (s : Json.Source) : Except WireError Unit :=
  match s.whole? with
  | none => .error (.expected "readable JSON")
  | some j =>
    if j.get? "kind" = some (.str "Status") then do
      let _ ← StatusReport.codec.read s
    else do
      let _ ← anyObject s

/-! ## Failures -/

/-- What a server reports of a call that failed. -/
structure ErrorReport where
  status : String
  message : String := ""
  reason : String := ""
  code : UInt16
deriving DecidableEq

def ErrorReport.codec : Codec ErrorReport := Record.positionalCodec <|
  ErrorReport.mk <$> .mandatory "status" (·.status) .string
    <*> .defaulted "message" (·.message) .string ""
    <*> .defaulted "reason" (·.reason) .string ""
    <*> .mandatory "code" (·.code) .uint16

end AgentOperator.Api
