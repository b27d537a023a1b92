import AgentOperator.Agent.Resource
import AgentOperator.Dataplane.Apply

/-!
AgentOperator.Controller.Ownership — making the agent the owner of what it
applies, so that the cluster deletes it with the agent.
-/

namespace AgentOperator.Controller

open Kube (ObjectMeta OwnerReference)

/-- The references with `owner` as the only controller. Others that are no
controllers are kept. -/
def withController (owner : OwnerReference) (references : List OwnerReference) :
    List OwnerReference :=
  Keyed.upsert (fun r => decide (r.uid = owner.uid)) owner (fun _ => owner)
    (references.filter fun r => decide (r.uid = owner.uid ∨ r.controller ≠ some true))

/-- Makes the agent the owner of objects in the spec's namespace. An object of
the whole cluster cannot have an owner and goes with the agent's cleanup. -/
def ownerSetter (a : Agent.Resource) (spec : Agent.Spec) : Except Error Dataplane.OwnerSetter :=
  match a.ownerReference? with
  | none =>
    .error (Fault.metadataMissing ("agent \"" ++ a.name ++ "\" has no uid") : Fault)
  | some owner => .ok fun m =>
    if m.namespace = some spec.namespace then
      .ok { m with ownerReferences := some (withController owner (m.ownerReferences.getD [])) }
    else .ok m

end AgentOperator.Controller
