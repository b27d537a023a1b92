import AgentOperator.Agent.Resource

/-!
AgentOperator.Controller.Event — the report on an agent's deletion that the
controller leaves in the cluster.
-/

namespace AgentOperator.Controller

open Kube (ObjectMeta)
open Schema (must opt req)

/-! ## Events -/

/-- The object that an event is about. -/
structure ObjectReference where
  apiVersion : Option String := none
  fieldPath : Option String := none
  kind : Option String := none
  name : Option String := none
  «namespace» : Option String := none
  resourceVersion : Option String := none
  uid : Option String := none
deriving DecidableEq, Inhabited

def ObjectReference.codec : Codec ObjectReference := Record.codec <|
  ObjectReference.mk <$> .optional "apiVersion" (·.apiVersion) .string
    <*> .optional "fieldPath" (·.fieldPath) .string
    <*> .optional "kind" (·.kind) .string
    <*> .optional "name" (·.name) .string
    <*> .optional "namespace" (·.namespace) .string
    <*> .optional "resourceVersion" (·.resourceVersion) .string
    <*> .optional "uid" (·.uid) .string

/-- The members of an event that are carried along. -/
def eventFields : Fields :=
  [opt "deprecatedCount" .int32, opt "deprecatedFirstTimestamp" .time,
    opt "deprecatedLastTimestamp" .time,
    opt "deprecatedSource" (.object (Schema.strings ["component", "host"])),
    opt "related" (.object (Schema.strings
      ["apiVersion", "fieldPath", "kind", "name", "namespace", "resourceVersion", "uid"])),
    opt "series" (.object [req "count" .int32, must "lastObservedTime" .time])]

/-- Something that was done to an object. -/
structure Event where
  metadata : ObjectMeta := {}
  action : Option String := none
  eventTime : Option Timestamp := none
  note : Option String := none
  reason : Option String := none
  regarding : Option ObjectReference := none
  reportingController : Option String := none
  reportingInstance : Option String := none
  type : Option String := none
  rest : Rest eventFields := default
deriving DecidableEq, Inhabited

/-- Times of events are written to the microsecond. -/
def eventTimeCodec : Codec Timestamp where
  encode t := .str (String.ofList (t.render.toList.dropLast ++ ".000000Z".toList))
  decode := Codec.timestamp.decode

def Event.codec : Codec Event := Record.codec <| Kube.typed "events.k8s.io/v1" "Event" <|
  Event.mk <$> .required "metadata" (·.metadata) ObjectMeta.codec
    <*> .optional "action" (·.action) .string
    <*> .optional "eventTime" (·.eventTime) eventTimeCodec
    <*> .optional "note" (·.note) .string
    <*> .optional "reason" (·.reason) .string
    <*> .optional "regarding" (·.regarding) ObjectReference.codec
    <*> .optional "reportingController" (·.reportingController) .string
    <*> .optional "reportingInstance" (·.reportingInstance) .string
    <*> .optional "type" (·.type) .string
    <*> .rest (·.rest)

/-! ## Deletion -/

def reporter : String := "cbcontainers-operator"

def referenceTo (a : Agent.Resource) : ObjectReference :=
  { apiVersion := some Agent.apiVersion
    kind := some Agent.kindName
    name := a.metadata.name
    «namespace» := a.metadata.namespace
    resourceVersion := a.metadata.resourceVersion
    uid := a.metadata.uid }

/-- The report that an agent is being deleted. Its name is made different from
that of every other by a number. -/
def deletionEvent (a : Agent.Resource) (now : Timestamp) (number : Nat) : Event :=
  { metadata :=
      { name := some (a.metadata.name.getD reporter ++ "." ++
          String.ofList (Nat.toDigits 16 number))
        «namespace» := a.metadata.namespace }
    action := some "Deleting"
    eventTime := some now
    note := some ("Delete `" ++ a.name ++ "`")
    reason := some "DeleteRequested"
    regarding := some (referenceTo a)
    reportingController := some reporter
    reportingInstance := some reporter
    type := some "Normal" }

/-- The namespace that events on an agent are kept in. -/
def eventSpace (a : Agent.Resource) : String := a.metadata.namespace.getD "default"

end AgentOperator.Controller
