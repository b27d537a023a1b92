import AgentOperator.Dataplane.Component
import AgentOperator.Dataplane.Deployments
import AgentOperator.Dataplane.NodeAgent
import AgentOperator.Dataplane.Service
import AgentOperator.Dataplane.Webhooks

/-!
AgentOperator.Dataplane.Mutate — bringing a stored object to what the spec
asks of its component.

`Component.mutate` keeps everything of the object that the component does not
own. An object of another kind is refused first of all; a component that lacks
a fact from outside refuses next.
-/

namespace AgentOperator.Dataplane

open Kube (ConfigMap Object PriorityClass Secret)

/-! ## Plain objects -/

/-- Who the dataplane is and how it reaches its gateways. -/
def configMapData (spec : Agent.Spec) : Dict String :=
  let api := spec.gateways.apiGateway
  let tls := spec.gateways.gatewayTls
  .ofList
    [(accountKey, spec.account),
      (clusterKey, spec.clusterName),
      (agentVersionKey, spec.version),
      (namespaceKey, spec.namespace),
      (apiSchemeKey, api.scheme),
      (apiHostKey, api.host),
      (apiPortKey, Workload.intText api.port),
      (apiAdapterKey, api.adapter),
      (tlsSkipVerifyKey, Workload.boolText tls.insecureSkipVerify),
      (tlsRootCAsPathKey, rootCAsDirectory ++ "/" ++ rootCAsFile),
      (rootCAsFile, tls.rootCAsBundle)]

/-- The priority of every pod of the dataplane. -/
def withPriority (p : PriorityClass) : PriorityClass :=
  { p with
    value := 999999999
    globalDefault := some false
    description := some "This priority class should be used only for CBContainers pods." }

/-! ## Components -/

/-- The certificate that webhooks need to know. -/
def Surroundings.requiredTls (s : Surroundings) : Except Error TlsMaterial :=
  match s.tls with
  | some tls => .ok tls
  | none => .error (.preconditionMissing "tls secret values weren't provided")

/-- The credentials that the registry secret needs to know. -/
def Surroundings.requiredRegistry (s : Surroundings) : Except Error RegistryCredentials :=
  match s.registry with
  | some r => .ok r
  | none =>
    .error (.preconditionMissing "wasn't given with the desired registry secret values")

/-- Brings an object to what the spec asks of the component. -/
def Component.mutate (c : Component) (s : Surroundings) (spec : Agent.Spec) (o : Object) :
    Except Error Object :=
  match c with
  | .configMap => do
    let m ← o.asConfigMap
    return .configMap { m with data := some (configMapData spec) }
  | .registrySecret => do
    let secret ← o.asSecret
    let r ← s.requiredRegistry
    return .secret { secret with type := some r.type, data := some r.data }
  | .priorityClass => do return .priorityClass (withPriority (← o.asPriorityClass))
  | .monitor => do return .deployment ((monitorPlan spec).apply spec (← o.asDeployment))
  | .enforcerTls => do
    let secret ← o.asSecret
    let tls ← s.issued
    return .secret { secret with data := some tls.toSecretData }
  | .enforcerService => do return .service ((enforcerServicePlan spec).apply (← o.asService))
  | .enforcer => do return .deployment ((enforcerPlan spec).apply spec (← o.asDeployment))
  | .validatingWebhook => do
    let c ← o.asValidatingWebhooks
    let tls ← s.requiredTls
    return .validatingWebhookConfiguration (withValidatingEntries s.kubelet tls spec c)
  | .mutatingWebhook => do
    let c ← o.asMutatingWebhooks
    let tls ← s.requiredTls
    return .mutatingWebhookConfiguration (withMutatingEntries s.kubelet tls spec c)
  | .stateReporter => do
    return .deployment ((stateReporterPlan spec).apply spec (← o.asDeployment))
  | .resolverService => do return .service ((resolverServicePlan spec).apply (← o.asService))
  | .resolver => do return .deployment ((resolverPlan s.nodes spec).apply spec (← o.asDeployment))
  | .imageScanningReporterService => do
    return .service ((imageScanningReporterServicePlan spec).apply (← o.asService))
  | .imageScanningReporter => do
    return .deployment ((imageScanningReporterPlan spec).apply spec (← o.asDeployment))
  | .nodeAgent => do return .daemonSet (withNodeAgent spec (← o.asDaemonSet))

end AgentOperator.Dataplane
