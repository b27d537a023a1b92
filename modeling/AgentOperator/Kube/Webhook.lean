import AgentOperator.Kube.ApiVersion
import AgentOperator.Kube.Meta

/-!
AgentOperator.Kube.Webhook — admission webhook configurations, in a form that
does not depend on the API generation they are written in.

`Webhook` has the fields of an entry in both generations. The generation `v1`
is read and written through its own entry type, `AdmissionV1.Webhook`, which
drops null and unknown members as every cluster object does; the generation
`v1beta1` is read and written member by member.
-/

namespace AgentOperator.Kube

/-! ## Entries -/

structure ServiceReference where
  name : String := ""
  «namespace» : String := ""
  path : Option String := none
  port : Option Int32 := none
deriving DecidableEq, Inhabited

def ServiceReference.codec : Codec ServiceReference := Record.codec <|
  ServiceReference.mk <$> .required "name" (·.name) .string
    <*> .required "namespace" (·.namespace) .string
    <*> .optional "path" (·.path) .string
    <*> .optional "port" (·.port) .int32

/-- How the API server reaches a webhook: by service or by URL. -/
structure WebhookClientConfig where
  caBundle : Option Bytes := none
  service : Option ServiceReference := none
  url : Option String := none
deriving DecidableEq, Inhabited

def WebhookClientConfig.codec : Codec WebhookClientConfig := Record.codec <|
  WebhookClientConfig.mk <$> .optional "caBundle" (·.caBundle) .bytes
    <*> .optional "service" (·.service) ServiceReference.codec
    <*> .optional "url" (·.url) .string

/-- The operations on resources that a webhook is asked about. -/
structure RuleWithOperations where
  apiGroups : Option (List String) := none
  apiVersions : Option (List String) := none
  operations : Option (List String) := none
  resources : Option (List String) := none
  scope : Option String := none
deriving DecidableEq, Inhabited

def RuleWithOperations.codec : Codec RuleWithOperations := Record.codec <|
  RuleWithOperations.mk <$> .optional "apiGroups" (·.apiGroups) (.list .string)
    <*> .optional "apiVersions" (·.apiVersions) (.list .string)
    <*> .optional "operations" (·.operations) (.list .string)
    <*> .optional "resources" (·.resources) (.list .string)
    <*> .optional "scope" (·.scope) .string

structure Webhook where
  name : String := ""
  admissionReviewVersions : List String := []
  clientConfig : WebhookClientConfig := {}
  failurePolicy : Option String := none
  matchPolicy : Option String := none
  namespaceSelector : Option LabelSelector := none
  objectSelector : Option LabelSelector := none
  rules : List RuleWithOperations := []
  sideEffects : Option String := none
  timeoutSeconds : Option Int32 := none
  reinvocationPolicy : Option String := none
deriving DecidableEq, Inhabited

inductive WebhookKind where
  | validating
  | mutating
deriving DecidableEq

def WebhookKind.name : WebhookKind → String
  | .validating => "ValidatingWebhookConfiguration"
  | .mutating => "MutatingWebhookConfiguration"

/-- A webhook configuration of one API generation. -/
structure WebhookConfiguration where
  version : AdmissionVersion := .v1
  metadata : ObjectMeta := {}
  webhooks : List Webhook := []
deriving DecidableEq, Inhabited

/-! ## Generation v1 -/

namespace AdmissionV1

structure MatchCondition where
  expression : String := ""
  name : String := ""
deriving DecidableEq, Inhabited

def MatchCondition.codec : Codec MatchCondition := Record.codec <|
  MatchCondition.mk <$> .required "expression" (·.expression) .string
    <*> .required "name" (·.name) .string

structure Webhook where
  admissionReviewVersions : List String := []
  clientConfig : WebhookClientConfig := {}
  failurePolicy : Option String := none
  matchConditions : Option (List MatchCondition) := none
  matchPolicy : Option String := none
  name : String := ""
  namespaceSelector : Option LabelSelector := none
  objectSelector : Option LabelSelector := none
  reinvocationPolicy : Option String := none
  rules : Option (List RuleWithOperations) := none
  sideEffects : String := ""
  timeoutSeconds : Option Int32 := none
deriving DecidableEq, Inhabited

/-- A validating entry has no reinvocation policy. -/
def Webhook.codec (kind : WebhookKind) : Codec Webhook := Record.codec <|
  Webhook.mk
    <$> .required "admissionReviewVersions" (·.admissionReviewVersions) (.list .string)
    <*> .required "clientConfig" (·.clientConfig) WebhookClientConfig.codec
    <*> .optional "failurePolicy" (·.failurePolicy) .string
    <*> .optional "matchConditions" (·.matchConditions) (.list MatchCondition.codec)
    <*> .optional "matchPolicy" (·.matchPolicy) .string
    <*> .required "name" (·.name) .string
    <*> .optional "namespaceSelector" (·.namespaceSelector) LabelSelector.codec
    <*> .optional "objectSelector" (·.objectSelector) LabelSelector.codec
    <*> (match kind with
      | .validating => pure none
      | .mutating => .optional "reinvocationPolicy" (·.reinvocationPolicy) .string)
    <*> .optional "rules" (·.rules) (.list RuleWithOperations.codec)
    <*> .required "sideEffects" (·.sideEffects) .string
    <*> .optional "timeoutSeconds" (·.timeoutSeconds) .int32

structure Configuration where
  metadata : ObjectMeta := {}
  webhooks : Option (List Webhook) := none
deriving DecidableEq, Inhabited

def Configuration.codec (kind : WebhookKind) : Codec Configuration :=
  Record.codec <| typed (AdmissionVersion.apiVersion .v1) kind.name <|
    Configuration.mk <$> .required "metadata" (·.metadata) ObjectMeta.codec
      <*> .optional "webhooks" (·.webhooks) (.list (Webhook.codec kind))

/-- The entry in this generation, where side effects have to be stated. -/
def Webhook.ofEntry (w : Kube.Webhook) : Webhook where
  admissionReviewVersions := w.admissionReviewVersions
  clientConfig := w.clientConfig
  failurePolicy := w.failurePolicy
  matchPolicy := w.matchPolicy
  name := w.name
  namespaceSelector := w.namespaceSelector
  objectSelector := w.objectSelector
  reinvocationPolicy := w.reinvocationPolicy
  rules := some w.rules
  sideEffects := w.sideEffects.getD "None"
  timeoutSeconds := w.timeoutSeconds

def Webhook.toEntry (w : Webhook) : Kube.Webhook where
  name := w.name
  admissionReviewVersions := w.admissionReviewVersions
  clientConfig := w.clientConfig
  failurePolicy := w.failurePolicy
  matchPolicy := w.matchPolicy
  namespaceSelector := w.namespaceSelector
  objectSelector := w.objectSelector
  rules := w.rules.getD []
  sideEffects := some w.sideEffects
  timeoutSeconds := w.timeoutSeconds
  reinvocationPolicy := w.reinvocationPolicy

def Configuration.ofNeutral (c : WebhookConfiguration) : Configuration where
  metadata := c.metadata
  webhooks := some (c.webhooks.map Webhook.ofEntry)

def Configuration.toNeutral (c : Configuration) : WebhookConfiguration where
  version := .v1
  metadata := c.metadata
  webhooks := (c.webhooks.getD []).map Webhook.toEntry

end AdmissionV1

/-! ## Generation v1beta1 -/

namespace AdmissionV1Beta1

/-- Entries of this generation may be given as arrays of their members' values,
and a member with a default may be missing but not null. -/
def entryCodec : Codec Webhook := Record.positionalCodec <|
  Webhook.mk <$> .mandatory "name" (·.name) .string
    <*> .unlessEmpty "admissionReviewVersions" (·.admissionReviewVersions) .string
    <*> .defaulted "clientConfig" (·.clientConfig) WebhookClientConfig.codec {}
    <*> .positioned (.optional "failurePolicy" (·.failurePolicy) .string)
    <*> .positioned (.optional "matchPolicy" (·.matchPolicy) .string)
    <*> .positioned (.optional "namespaceSelector" (·.namespaceSelector) LabelSelector.codec)
    <*> .positioned (.optional "objectSelector" (·.objectSelector) LabelSelector.codec)
    <*> .unlessEmpty "rules" (·.rules) RuleWithOperations.codec
    <*> .positioned (.optional "sideEffects" (·.sideEffects) .string)
    <*> .positioned (.optional "timeoutSeconds" (·.timeoutSeconds) .int32)
    <*> .positioned (.optional "reinvocationPolicy" (·.reinvocationPolicy) .string)

/-- The members of a configuration beside those that say what it is. -/
def bodyRecord : Record WebhookConfiguration WebhookConfiguration :=
  WebhookConfiguration.mk .v1beta1 <$> .defaulted "metadata" (·.metadata) ObjectMeta.codec {}
    <*> .defaulted "webhooks" (·.webhooks) (.list entryCodec) []

def encode (kind : WebhookKind) (c : WebhookConfiguration) : Json :=
  (typed (AdmissionVersion.apiVersion .v1beta1) kind.name bodyRecord).codec.encode c

/-- Reads the body; a validating entry loses its reinvocation policy. -/
def decode (kind : WebhookKind) (j : Json) : Except WireError WebhookConfiguration := do
  let c ← bodyRecord.positionalCodec.decode j
  match kind with
  | .validating =>
    return { c with webhooks := c.webhooks.map fun w => { w with reinvocationPolicy := none } }
  | .mutating => return c

end AdmissionV1Beta1

/-! ## Both generations -/

namespace WebhookConfiguration

def encode (kind : WebhookKind) (c : WebhookConfiguration) : Json :=
  match c.version with
  | .v1 => (AdmissionV1.Configuration.codec kind).encode (.ofNeutral c)
  | .v1beta1 => AdmissionV1Beta1.encode kind c

/-- Reads a configuration of a given generation. The generation `v1beta1` does
not look at what the object says it is. -/
def decode (kind : WebhookKind) (version : AdmissionVersion) (j : Json) :
    Except WireError WebhookConfiguration :=
  match version with
  | .v1 => AdmissionV1.Configuration.toNeutral <$> (AdmissionV1.Configuration.codec kind).decode j
  | .v1beta1 => AdmissionV1Beta1.decode kind j

end WebhookConfiguration

end AgentOperator.Kube
