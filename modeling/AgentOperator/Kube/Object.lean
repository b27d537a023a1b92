import AgentOperator.Error
import AgentOperator.Kube.Config
import AgentOperator.Kube.Service
import AgentOperator.Kube.Webhook
import AgentOperator.Kube.Workload

/-!
AgentOperator.Kube.Object — an object of any managed kind.

Kinds whose layout depends on the version of the cluster are held in one form
that remembers the API generation it was read in.
-/

namespace AgentOperator.Kube

inductive Object where
  | deployment (o : Deployment)
  | daemonSet (o : DaemonSet)
  | service (o : Service)
  | secret (o : Secret)
  | configMap (o : ConfigMap)
  | priorityClass (o : PriorityClass)
  | validatingWebhookConfiguration (o : WebhookConfiguration)
  | mutatingWebhookConfiguration (o : WebhookConfiguration)
deriving DecidableEq

namespace Object

def kind : Object → Kind
  | .deployment _ => .deployment
  | .daemonSet _ => .daemonSet
  | .service _ => .service
  | .secret _ => .secret
  | .configMap _ => .configMap
  | .priorityClass _ => .priorityClass
  | .validatingWebhookConfiguration _ => .validatingWebhookConfiguration
  | .mutatingWebhookConfiguration _ => .mutatingWebhookConfiguration

def apiVersion : Object → String
  | .deployment _ | .daemonSet _ => "apps/v1"
  | .service _ | .secret _ | .configMap _ => "v1"
  | .priorityClass o => o.version.apiVersion
  | .validatingWebhookConfiguration o | .mutatingWebhookConfiguration o => o.version.apiVersion

def metadata : Object → ObjectMeta
  | .deployment o => o.metadata
  | .daemonSet o => o.metadata
  | .service o => o.metadata
  | .secret o => o.metadata
  | .configMap o => o.metadata
  | .priorityClass o => o.metadata
  | .validatingWebhookConfiguration o | .mutatingWebhookConfiguration o => o.metadata

/-- The object with other metadata. -/
def withMetadata (object : Object) (m : ObjectMeta) : Object :=
  match object with
  | .deployment o => .deployment { o with metadata := m }
  | .daemonSet o => .daemonSet { o with metadata := m }
  | .service o => .service { o with metadata := m }
  | .secret o => .secret { o with metadata := m }
  | .configMap o => .configMap { o with metadata := m }
  | .priorityClass o => .priorityClass { o with metadata := m }
  | .validatingWebhookConfiguration o => .validatingWebhookConfiguration { o with metadata := m }
  | .mutatingWebhookConfiguration o => .mutatingWebhookConfiguration { o with metadata := m }

/-- The key the object has in its metadata. -/
def key (o : Object) : ObjectKey := ⟨o.metadata.namespace, o.metadata.name.getD ""⟩

/-- The object of a kind that holds nothing, in the API generation that a
kubelet version asks for. -/
def empty (kubelet : String) : Kind → Object
  | .deployment => .deployment {}
  | .daemonSet => .daemonSet {}
  | .service => .service {}
  | .secret => .secret {}
  | .configMap => .configMap {}
  | .priorityClass => .priorityClass { version := .ofKubelet kubelet }
  | .validatingWebhookConfiguration =>
    .validatingWebhookConfiguration { version := .ofKubelet kubelet }
  | .mutatingWebhookConfiguration =>
    .mutatingWebhookConfiguration { version := .ofKubelet kubelet }

/-! ## JSON -/

def encode : Object → Json
  | .deployment o => Deployment.codec.encode o
  | .daemonSet o => DaemonSet.codec.encode o
  | .service o => Service.codec.encode o
  | .secret o => Secret.codec.encode o
  | .configMap o => ConfigMap.codec.encode o
  | .priorityClass o => o.encode
  | .validatingWebhookConfiguration o => o.encode .validating
  | .mutatingWebhookConfiguration o => o.encode .mutating

/-- Reads a webhook configuration. One of the generation `v1beta1` that says it
is of another kind is refused as such. -/
def decodeWebhooks (kind : WebhookKind) (version : AdmissionVersion) (j : Json) :
    Except Error WebhookConfiguration :=
  let read := orUnreadable (WebhookConfiguration.decode kind version j)
  match version, (j.get? "kind").bind Json.asString? with
  | .v1beta1, some actual =>
    if actual = kind.name then read
    else .error (Fault.misencoded ("expected " ++ kind.name ++ " but decoded " ++ actual) : Fault)
  | _, _ => read

/-- Reads an object of the kind and API generation of `template`. -/
def decodeLike (template : Object) (j : Json) : Except Error Object :=
  match template with
  | .deployment _ => .deployment <$> orUnreadable (Deployment.codec.decode j)
  | .daemonSet _ => .daemonSet <$> orUnreadable (DaemonSet.codec.decode j)
  | .service _ => .service <$> orUnreadable (Service.codec.decode j)
  | .secret _ => .secret <$> orUnreadable (Secret.codec.decode j)
  | .configMap _ => .configMap <$> orUnreadable (ConfigMap.codec.decode j)
  | .priorityClass t => .priorityClass <$> orUnreadable (PriorityClass.decode t.version j)
  | .validatingWebhookConfiguration t =>
    .validatingWebhookConfiguration <$> decodeWebhooks .validating t.version j
  | .mutatingWebhookConfiguration t =>
    .mutatingWebhookConfiguration <$> decodeWebhooks .mutating t.version j

/-! ## Access by kind -/

/-- Refuses the object for being of another kind. -/
def refuse (expected : Kind) (o : Object) : Except Error α :=
  .error (.unexpectedKind expected o.kind)

def asDeployment : Object → Except Error Deployment
  | .deployment o => .ok o
  | o => o.refuse .deployment

def asDaemonSet : Object → Except Error DaemonSet
  | .daemonSet o => .ok o
  | o => o.refuse .daemonSet

def asService : Object → Except Error Service
  | .service o => .ok o
  | o => o.refuse .service

def asSecret : Object → Except Error Secret
  | .secret o => .ok o
  | o => o.refuse .secret

def asConfigMap : Object → Except Error ConfigMap
  | .configMap o => .ok o
  | o => o.refuse .configMap

def asPriorityClass : Object → Except Error PriorityClass
  | .priorityClass o => .ok o
  | o => o.refuse .priorityClass

def asValidatingWebhooks : Object → Except Error WebhookConfiguration
  | .validatingWebhookConfiguration o => .ok o
  | o => o.refuse .validatingWebhookConfiguration

def asMutatingWebhooks : Object → Except Error WebhookConfiguration
  | .mutatingWebhookConfiguration o => .ok o
  | o => o.refuse .mutatingWebhookConfiguration

end Object

end AgentOperator.Kube
