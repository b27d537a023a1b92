import AgentOperator.Dataplane.Apply
import AgentOperator.Metrics

/-!
AgentOperator.Dataplane.Pass — one pass over all components, in the order in
which they depend on each other.

A pass that fails leaves behind what it has written, and the next one takes up
from there. Only the webhooks are not left behind: while the enforcer cannot be
brought to the spec, or has no replica that is ready, they are deleted, because
the API server would send every request to an enforcer that does not answer.
-/

namespace AgentOperator.Dataplane

open Kube (Object)

/-! ## Passes -/

/-- What lives longer than a pass. -/
structure Memory where
  /-- The kubelet version: given from the start, or learnt once. -/
  kubelet : Option String := none
  metrics : Metrics := {}
deriving DecidableEq, Inhabited

/-- Work on the dataplane. What is remembered is kept on failure too. -/
abbrev Pass := ExceptT Error (StateT Memory (Script outside))

namespace Pass

/-- A task that remembers nothing. -/
def ofTask (t : Task α) : Pass α := ExceptT.mk (StateT.lift t.run)

/-- The kubelet version, which is asked for until it is known. -/
def kubeletVersion : Pass String := do
  match (← get).kubelet with
  | some version => return version
  | none =>
    let version ← ofTask Task.kubeletVersion
    modify fun m => { m with kubelet := some version }
    return version

/-- Brings a component to the spec, and counts it if it was written. -/
def applied (c : Component) (s : Surroundings) (spec : Agent.Spec) (opts : ApplyOptions) :
    Pass Applied := do
  let applied ← ofTask (apply c s spec opts)
  if applied.changed then
    modify fun m => { m with metrics := m.metrics.countApplied c.label }
  return applied

/-- Brings components to the spec, one after the other, and tells whether any
of them was written. -/
def applyAll (s : Surroundings) (spec : Agent.Spec) (opts : ApplyOptions) :
    List Component → Pass Bool
  | [] => return false
  | c :: cs => do
    let first ← applied c s spec opts
    let rest ← applyAll s spec opts cs
    return first.changed || rest

/-- Deletes components that are there, one after the other, and tells whether
any of them was. -/
def deleteAll (kubelet : String) (spec : Agent.Spec) : List Component → Pass Bool
  | [] => return false
  | c :: cs => do
    let first ← ofTask (deleteIfExists c kubelet spec)
    let rest ← deleteAll kubelet spec cs
    return first || rest

end Pass

open Pass (applied applyAll deleteAll)

/-! ## The enforcer -/

def webhooks : List Component := [.validatingWebhook, .mutatingWebhook]

/-- A step without which the enforcer cannot be trusted to answer: when it
fails, the webhooks are deleted before its error is passed on. That they cannot
be deleted is the graver error. -/
def orPullWebhooks (kubelet : String) (spec : Agent.Spec) (step : Pass α) : Pass α :=
  tryCatch step fun e => do
    let _ ← deleteAll kubelet spec webhooks
    throw e

/-- The replicas of a deployment that are ready. -/
def readyReplicas (o : Object) : Except Error Int32 := do
  let d ← o.asDeployment
  return (d.status.bind (·.readyReplicas)).getD 0

/-- Brings the webhooks to the spec, with the certificate that is stored. The
mutating one is only there while enforcement is on. -/
def applyWebhooks (s : Surroundings) (spec : Agent.Spec) (opts : ApplyOptions)
    (stored : Dict Bytes) : Pass Bool := do
  let tls ← Pass.ofTask (Task.ofExcept (TlsMaterial.ofSecretData stored))
  let s := { s with tls := some tls }
  let validating ← applied .validatingWebhook s spec opts
  let mutating ←
    if spec.components.basic.enforcer.enableEnforcementFeature then
      (·.changed) <$> applied .mutatingWebhook s spec opts
    else deleteAll s.kubelet spec [.mutatingWebhook]
  return validating.changed || mutating

/-- Brings the enforcer to the spec: certificate, service and deployment, then
the webhooks that lead to it. The certificate is never replaced. -/
def applyEnforcer (s : Surroundings) (spec : Agent.Spec) (opts : ApplyOptions) : Pass Bool := do
  let guarded (c : Component) (opts : ApplyOptions) : Pass Applied :=
    orPullWebhooks s.kubelet spec (applied c s spec opts)
  let secret ← guarded .enforcerTls { opts with createOnly := true }
  let stored ← Pass.ofTask (Task.ofExcept secret.object.asSecret)
  let service ← guarded .enforcerService opts
  let deployment ← guarded .enforcer opts
  let ready ← Pass.ofTask (Task.ofExcept (readyReplicas deployment.object))
  let webhooks ←
    if ready < 1 then deleteAll s.kubelet spec webhooks
    else applyWebhooks s spec opts (stored.data.getD ∅)
  return secret.changed || service.changed || deployment.changed || webhooks

/-! ## The whole dataplane -/

/-- Brings the resolver to the spec, or deletes it where it is not wanted. Its
size follows the number of nodes. -/
def applyResolver (s : Surroundings) (spec : Agent.Spec) (opts : ApplyOptions) : Pass Bool := do
  let components := [Component.resolverService, .resolver]
  if spec.components.runtimeProtection.enabled then
    let nodes ← Pass.ofTask Task.nodeCount
    applyAll { s with nodes := some nodes } spec opts components
  else deleteAll s.kubelet spec components

/-- Brings components to the spec, or deletes them where they are not wanted. -/
def applyIf (wanted : Bool) (s : Surroundings) (spec : Agent.Spec) (opts : ApplyOptions)
    (components : List Component) : Pass Bool :=
  if wanted then applyAll s spec opts components else deleteAll s.kubelet spec components

/-- Brings the whole dataplane to the spec, and tells whether anything was
written or deleted. -/
def applyDesiredState (spec : Agent.Spec) (registry : RegistryCredentials)
    (setOwner : Option OwnerSetter) : Pass Bool := do
  let kubelet ← Pass.kubeletVersion
  let opts : ApplyOptions := { setOwner }
  let s : Surroundings := { kubelet, registry := some registry }
  let core ← applyAll s spec opts [.configMap, .registrySecret, .priorityClass, .monitor]
  let enforcer ← applyEnforcer s spec opts
  let stateReporter ← applyAll s spec opts [.stateReporter]
  let resolver ← applyResolver s spec opts
  let runtime := spec.components.runtimeProtection.enabled
  let scanning := spec.components.clusterScanning.enabled
  let reporter ←
    applyIf scanning s spec opts [.imageScanningReporterService, .imageScanningReporter]
  let nodeAgent ← applyIf (runtime || scanning) s spec opts [.nodeAgent]
  return core || enforcer || stateReporter || resolver || reporter || nodeAgent

/-- Deletes what does not go away with its owner: the objects of the whole
cluster have none. -/
def deleteClusterScoped (spec : Agent.Spec) : Pass Bool := do
  deleteAll (← Pass.kubeletVersion) spec [.validatingWebhook, .mutatingWebhook, .priorityClass]

end AgentOperator.Dataplane
