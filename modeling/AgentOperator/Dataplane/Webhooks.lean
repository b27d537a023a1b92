import AgentOperator.Agent.Spec
import AgentOperator.Dataplane.Names
import AgentOperator.Kube.Webhook
import AgentOperator.Tls

/-!
AgentOperator.Dataplane.Webhooks — the admission webhooks that lead to the
enforcer.
-/

namespace AgentOperator.Dataplane

open Kube (LabelSelectorRequirement RuleWithOperations Webhook WebhookConfiguration versionAtLeast)

/-! ## Names and resources -/

def validatingResourcesName : String := "resources.validating-webhook.cbcontainers"

def validatingNamespacesName : String := "namespaces.validating-webhook.cbcontainers"

def mutatingResourcesName : String := "resources.mutating-webhook.cbcontainers"

def validatedResources : List String :=
  ["pods/portforward", "pods/exec", "pods", "replicasets", "services", "roles", "rolebindings",
    "clusterroles", "clusterrolebindings", "networkpolicies", "deployments",
    "replicationcontrollers", "daemonsets", "statefulsets", "jobs", "cronjobs", "ingresses",
    "customresourcedefinitions"]

def mutatedResources : List String :=
  ["namespaces", "pods", "replicasets", "services", "roles", "rolebindings", "clusterroles",
    "clusterrolebindings", "networkpolicies", "deployments", "replicationcontrollers",
    "daemonsets", "statefulsets", "jobs", "cronjobs", "ingresses", "customresourcedefinitions",
    "deploymentconfigs", "routes"]

def reviewVersions : List String := ["v1beta1"]

/-! ## Parts of an entry -/

/-- Leads the entry to a path of the enforcer's service. -/
def withEnforcerService (space path : String) (w : Webhook) : Webhook :=
  let service := w.clientConfig.service.getD {}
  { w with
    clientConfig :=
      { w.clientConfig with
        service := some
          { service with «namespace» := space, name := enforcerName, path := some path } } }

/-- The authority that the enforcer's certificate is trusted by. -/
def withCaBundle (ca : Bytes) (w : Webhook) : Webhook :=
  { w with clientConfig := { w.clientConfig with caBundle := some ca } }

def notIn (key : String) (values : List String) : LabelSelectorRequirement :=
  { key, operator := "NotIn", values := some values }

/-- What a namespace must be like for its objects to be reviewed. -/
def reviewedNamespaces (excluded : List String) : List LabelSelectorRequirement :=
  [notIn "octarine" ["ignore"], notIn "kubernetes.io/metadata.name" excluded]

/-- Passes over namespaces that opted out and over the given ones. A selector
that says so already, in any order, is left alone. -/
def withNamespaceSelector (excluded : List String) (w : Webhook) : Webhook :=
  let desired := reviewedNamespaces excluded
  let satisfied := (w.namespaceSelector.bind (·.matchExpressions)).any fun es =>
    decide (es.length = desired.length) && desired.all fun d => es.contains d
  if satisfied then w else { w with namespaceSelector := some { matchExpressions := some desired } }

/-- One rule for every operation on the resources in any group and version. The
resources are compared as a set; the scope of a single stored rule stays. -/
def withRule (resources : List String) (w : Webhook) : Webhook :=
  let rule : RuleWithOperations := match w.rules with
    | [rule] => rule
    | _ => {}
  let stored := rule.resources.getD []
  let same := decide (stored.length = resources.length) &&
    resources.all fun r => stored.contains r
  let everything := some ["*"]
  { w with
    rules :=
      [{ rule with
          operations := everything
          apiVersions := everything
          apiGroups := everything
          resources := if same then rule.resources else some resources }] }

/-! ## Configurations -/

/-- The label that keeps another admission controller from touching a
configuration. -/
def hostedEnforcerLabel : String := "admissions.enforcer/disabled"

def withConfigurationLabels (labels : Dict String) (c : WebhookConfiguration) :
    WebhookConfiguration :=
  { c with metadata := { c.metadata with labels := some (labels.insert hostedEnforcerLabel "true") } }

/-- Keeps the entries if they have just these names, and starts them afresh
otherwise. -/
def withEntries (names : List String) (c : WebhookConfiguration) : WebhookConfiguration :=
  if c.webhooks.length = names.length ∧
      names.all fun name => c.webhooks.any fun w => decide (w.name = name) then c
  else { c with webhooks := names.map fun name => { name } }

/-- Brings an entry of the validating configuration to the spec. The entry for
namespaces reviews all of them. -/
def validatingEntry (kubelet : String) (tls : TlsMaterial) (spec : Agent.Spec) (w : Webhook) :
    Webhook :=
  let enforcer := spec.components.basic.enforcer
  let w :=
    { w with
      admissionReviewVersions := reviewVersions
      failurePolicy := some enforcer.failurePolicy
      matchPolicy := some "Equivalent"
      timeoutSeconds :=
        if versionAtLeast kubelet 1 14 then some enforcer.webhookTimeoutSeconds
        else w.timeoutSeconds }
  let w := withEnforcerService spec.namespace "/validate" (withCaBundle tls.caCert w)
  if w.name = validatingNamespacesName then
    withRule ["namespaces"] { w with sideEffects := some "None", namespaceSelector := some {} }
  else
    withRule validatedResources
      (withNamespaceSelector [spec.namespace] { w with sideEffects := some "NoneOnDryRun" })

/-- Brings the entry of the mutating configuration to the spec. -/
def mutatingEntry (kubelet : String) (tls : TlsMaterial) (spec : Agent.Spec) (w : Webhook) :
    Webhook :=
  let enforcer := spec.components.basic.enforcer
  let w :=
    { w with
      failurePolicy := some enforcer.failurePolicy
      sideEffects := some "NoneOnDryRun" }
  let w := withRule mutatedResources (withNamespaceSelector [spec.namespace, systemNamespace] w)
  let w :=
    if versionAtLeast kubelet 1 14 then
      { w with
        timeoutSeconds := some enforcer.webhookTimeoutSeconds
        admissionReviewVersions := reviewVersions }
    else w
  let w := if versionAtLeast kubelet 1 15 then { w with matchPolicy := some "Equivalent" } else w
  withEnforcerService spec.namespace "/mutate" (withCaBundle tls.caCert w)

def withValidatingEntries (kubelet : String) (tls : TlsMaterial) (spec : Agent.Spec)
    (c : WebhookConfiguration) : WebhookConfiguration :=
  let c := withConfigurationLabels spec.components.basic.enforcer.labels c
  let c := withEntries [validatingResourcesName, validatingNamespacesName] c
  { c with webhooks := c.webhooks.map (validatingEntry kubelet tls spec) }

def withMutatingEntries (kubelet : String) (tls : TlsMaterial) (spec : Agent.Spec)
    (c : WebhookConfiguration) : WebhookConfiguration :=
  let c := withConfigurationLabels spec.components.basic.enforcer.labels c
  let c := withEntries [mutatingResourcesName] c
  { c with webhooks := c.webhooks.map (mutatingEntry kubelet tls spec) }

end AgentOperator.Dataplane
