import AgentOperator.Agent.Spec
import AgentOperator.Dataplane.Names
import AgentOperator.Kube.Object
import AgentOperator.Tls

/-!
AgentOperator.Dataplane.Component — the objects that make up the dataplane.

Each component is one object of one kind under one key. What it should hold
follows from the agent's spec and from a few facts from outside, its
`Surroundings`.
-/

namespace AgentOperator.Dataplane

open Kube (Kind Object ObjectKey)

inductive Component where
  | configMap
  | registrySecret
  | priorityClass
  | monitor
  | enforcerTls
  | enforcerService
  | enforcer
  | validatingWebhook
  | mutatingWebhook
  | stateReporter
  | resolverService
  | resolver
  | imageScanningReporterService
  | imageScanningReporter
  | nodeAgent
deriving DecidableEq, Inhabited

namespace Component

def all : List Component :=
  [.configMap, .registrySecret, .priorityClass, .monitor, .enforcerTls, .enforcerService,
    .enforcer, .validatingWebhook, .mutatingWebhook, .stateReporter, .resolverService, .resolver,
    .imageScanningReporterService, .imageScanningReporter, .nodeAgent]

/-- The name under which writes of the component are counted. -/
def label : Component → String
  | .configMap => "configmap"
  | .registrySecret => "registry-secret"
  | .priorityClass => "priority-class"
  | .monitor => "monitor"
  | .enforcerTls => "enforcer-tls"
  | .enforcerService => "enforcer-service"
  | .enforcer => "enforcer"
  | .validatingWebhook => "validating-webhook"
  | .mutatingWebhook => "mutating-webhook"
  | .stateReporter => "state-reporter"
  | .resolverService => "resolver-service"
  | .resolver => "resolver"
  | .imageScanningReporterService => "image-scanning-reporter-service"
  | .imageScanningReporter => "image-scanning-reporter"
  | .nodeAgent => "node-agent"

def ofLabel? (label : String) : Option Component := all.find? (·.label = label)

def kind : Component → Kind
  | .configMap => .configMap
  | .registrySecret | .enforcerTls => .secret
  | .priorityClass => .priorityClass
  | .monitor | .enforcer | .stateReporter | .resolver | .imageScanningReporter => .deployment
  | .enforcerService | .resolverService | .imageScanningReporterService => .service
  | .validatingWebhook => .validatingWebhookConfiguration
  | .mutatingWebhook => .mutatingWebhookConfiguration
  | .nodeAgent => .daemonSet

/-- The name of the component's object. -/
def objectName : Component → String
  | .configMap => configMapName
  | .registrySecret => registrySecretName
  | .priorityClass => priorityClassName
  | .monitor => monitorName
  | .enforcerTls => enforcerTlsName
  | .enforcerService | .enforcer | .validatingWebhook | .mutatingWebhook => enforcerName
  | .stateReporter => stateReporterName
  | .resolverService | .resolver => resolverName
  | .imageScanningReporterService | .imageScanningReporter => imageScanningReporterName
  | .nodeAgent => nodeAgentName

/-- Whether the component's object belongs to the whole cluster. -/
def isClusterScoped : Component → Bool
  | .priorityClass | .validatingWebhook | .mutatingWebhook => true
  | _ => false

/-- The key of the component's object under a spec. -/
def key (c : Component) (spec : Agent.Spec) : ObjectKey :=
  if c.isClusterScoped then .clusterScoped c.objectName
  else .namespaced spec.namespace c.objectName

/-- An object of the component's kind that holds nothing. -/
def emptyObject (c : Component) (kubelet : String) : Object := .empty kubelet c.kind

end Component

/-- The service a certificate of the enforcer is issued for. -/
def enforcerServiceKey (spec : Agent.Spec) : ObjectKey := .namespaced spec.namespace enforcerName

/-- What components need to know beside the spec. -/
structure Surroundings where
  /-- The version of the cluster's kubelets. -/
  kubelet : String := ""
  /-- What images are pulled with, if it is known. -/
  registry : Option RegistryCredentials := none
  /-- The enforcer's certificate that webhooks are registered with, if it is
  known. -/
  tls : Option TlsMaterial := none
  /-- What the issuer of certificates answers when it is asked for one for the
  enforcer. -/
  issued : Except Error TlsMaterial := .error (.preconditionMissing "no certificate was issued")
  /-- The number of nodes, if it is known. -/
  nodes : Option UInt64 := none

end AgentOperator.Dataplane
