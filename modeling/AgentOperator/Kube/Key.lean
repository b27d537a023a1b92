/-!
AgentOperator.Kube.Key — the kinds of objects the operator manages, and the
names objects have in a cluster.
-/

namespace AgentOperator.Kube

inductive Kind where
  | deployment
  | daemonSet
  | service
  | secret
  | configMap
  | priorityClass
  | validatingWebhookConfiguration
  | mutatingWebhookConfiguration
deriving DecidableEq, Inhabited

namespace Kind

def all : List Kind :=
  [.deployment, .daemonSet, .service, .secret, .configMap, .priorityClass,
    .validatingWebhookConfiguration, .mutatingWebhookConfiguration]

def name : Kind → String
  | .deployment => "Deployment"
  | .daemonSet => "DaemonSet"
  | .service => "Service"
  | .secret => "Secret"
  | .configMap => "ConfigMap"
  | .priorityClass => "PriorityClass"
  | .validatingWebhookConfiguration => "ValidatingWebhookConfiguration"
  | .mutatingWebhookConfiguration => "MutatingWebhookConfiguration"

/-- The word for the kind in resource paths. -/
def plural : Kind → String
  | .deployment => "deployments"
  | .daemonSet => "daemonsets"
  | .service => "services"
  | .secret => "secrets"
  | .configMap => "configmaps"
  | .priorityClass => "priorityclasses"
  | .validatingWebhookConfiguration => "validatingwebhookconfigurations"
  | .mutatingWebhookConfiguration => "mutatingwebhookconfigurations"

/-- The kind with a name. -/
def ofName? (name : String) : Option Kind := all.find? (·.name = name)

end Kind

/-- Namespace and name of an object; an object of the whole cluster has no
namespace. -/
structure ObjectKey where
  «namespace» : Option String := none
  name : String := ""
deriving DecidableEq, Inhabited

namespace ObjectKey

def namespaced (space name : String) : ObjectKey := ⟨some space, name⟩

def clusterScoped (name : String) : ObjectKey := ⟨none, name⟩

def render (k : ObjectKey) : String :=
  match k.namespace with
  | some space => space ++ "/" ++ k.name
  | none => k.name

end ObjectKey

end AgentOperator.Kube
