import AgentOperator.Codec.Schema

/-!
AgentOperator.Kube.Meta — what every cluster object has: metadata with labels,
annotations and owner references; label selectors; status conditions.

The structures of this folder name the members the operator reads or writes.
The others of an object are in its field `rest`, which no part of the operator
looks into, so that an object read and written again keeps them.
-/

namespace AgentOperator

namespace Schema

/-! ## Notation of fields -/

def opt (name : String) (s : Schema) : String × Presence × Schema := (name, .optional, s)

def req (name : String) (s : Schema) : String × Presence × Schema := (name, .required, s)

def must (name : String) (s : Schema) : String × Presence × Schema := (name, .mandatory, s)

/-- Optional members that hold strings. -/
def strings (names : List String) : Fields := names.map (opt · .string)

def managedFieldsEntry : Schema := .object
  [opt "apiVersion" .string, opt "fieldsType" .string, opt "fieldsV1" .any, opt "manager" .string,
    opt "operation" .string, opt "subresource" .string, opt "time" .time]

end Schema

namespace Kube

open Schema (opt req)

/-! ## Metadata -/

structure OwnerReference where
  apiVersion : String := ""
  blockOwnerDeletion : Option Bool := none
  controller : Option Bool := none
  kind : String := ""
  name : String := ""
  uid : String := ""
deriving DecidableEq, Inhabited

def OwnerReference.codec : Codec OwnerReference := Record.codec <|
  OwnerReference.mk <$> .required "apiVersion" (·.apiVersion) .string
    <*> .optional "blockOwnerDeletion" (·.blockOwnerDeletion) .bool
    <*> .optional "controller" (·.controller) .bool
    <*> .required "kind" (·.kind) .string
    <*> .required "name" (·.name) .string
    <*> .required "uid" (·.uid) .string

/-- The metadata members that are carried along. -/
def metaFields : Fields :=
  [opt "creationTimestamp" .time, opt "deletionGracePeriodSeconds" .int64,
    opt "managedFields" (.list Schema.managedFieldsEntry), opt "selfLink" .string]

structure ObjectMeta where
  name : Option String := none
  generateName : Option String := none
  «namespace» : Option String := none
  uid : Option String := none
  resourceVersion : Option String := none
  generation : Option Int64 := none
  labels : Option (Dict String) := none
  annotations : Option (Dict String) := none
  ownerReferences : Option (List OwnerReference) := none
  finalizers : Option (List String) := none
  deletionTimestamp : Option Timestamp := none
  rest : Rest metaFields := default
deriving DecidableEq, Inhabited

def ObjectMeta.codec : Codec ObjectMeta := Record.codec <|
  ObjectMeta.mk <$> .optional "name" (·.name) .string
    <*> .optional "generateName" (·.generateName) .string
    <*> .optional "namespace" (·.namespace) .string
    <*> .optional "uid" (·.uid) .string
    <*> .optional "resourceVersion" (·.resourceVersion) .string
    <*> .optional "generation" (·.generation) .int64
    <*> .optional "labels" (·.labels) (.dict .string)
    <*> .optional "annotations" (·.annotations) (.dict .string)
    <*> .optional "ownerReferences" (·.ownerReferences) (.list OwnerReference.codec)
    <*> .optional "finalizers" (·.finalizers) (.list .string)
    <*> .optional "deletionTimestamp" (·.deletionTimestamp) .timestamp
    <*> .rest (·.rest)

/-- The name, or else the start of the name the server will make up. -/
def ObjectMeta.anyName (m : ObjectMeta) : String := (m.name.or m.generateName).getD ""

/-! ## Selectors -/

structure LabelSelectorRequirement where
  key : String := ""
  operator : String := ""
  values : Option (List String) := none
deriving DecidableEq, Inhabited

def LabelSelectorRequirement.codec : Codec LabelSelectorRequirement := Record.codec <|
  LabelSelectorRequirement.mk <$> .required "key" (·.key) .string
    <*> .required "operator" (·.operator) .string
    <*> .optional "values" (·.values) (.list .string)

structure LabelSelector where
  matchExpressions : Option (List LabelSelectorRequirement) := none
  matchLabels : Option (Dict String) := none
deriving DecidableEq, Inhabited

def LabelSelector.codec : Codec LabelSelector := Record.codec <|
  LabelSelector.mk
    <$> .optional "matchExpressions" (·.matchExpressions) (.list LabelSelectorRequirement.codec)
    <*> .optional "matchLabels" (·.matchLabels) (.dict .string)

/-! ## References and conditions -/

/-- The name of an object in the same namespace. -/
structure LocalObjectReference where
  name : String := ""
deriving DecidableEq, Inhabited

def LocalObjectReference.codec : Codec LocalObjectReference := Record.codec <|
  LocalObjectReference.mk <$> .required "name" (·.name) .string

/-- One observation about an object, told apart from others by its type. -/
structure Condition where
  lastTransitionTime : Timestamp
  message : String := ""
  observedGeneration : Option Int64 := none
  reason : String := ""
  status : String := ""
  type : String := ""
deriving DecidableEq, Inhabited

def Condition.codec : Codec Condition := Record.codec <|
  Condition.mk <$> .mandatory "lastTransitionTime" (·.lastTransitionTime) .timestamp
    <*> .required "message" (·.message) .string
    <*> .optional "observedGeneration" (·.observedGeneration) .int64
    <*> .required "reason" (·.reason) .string
    <*> .required "status" (·.status) .string
    <*> .required "type" (·.type) .string

/-! ## Objects -/

/-- The members that say what an object is: they may be missing, must be right
if they are there, and are always written. -/
def typed (apiVersion kind : String) (r : Record σ α) : Record σ α :=
  .after (.constant "apiVersion" apiVersion) (.after (.constant "kind" kind) r)

end Kube

end AgentOperator
