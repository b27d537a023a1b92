import AgentOperator.Proofs.Wanted

/-!
AgentOperator.Proofs.SoleController — whether an owner becomes the only controller.

References to other owners stay just if they are no controllers, and of those to the owner
itself the first becomes the owner (`others_withController`, `ownReferences_withController`).
The further ones to the owner are not looked at. So the owner is the only controller just if
none of them is one, however often it is made the controller (`sole_controller_iff`).
-/

namespace AgentOperator.Controller

open Kube (OwnerReference)

variable {owner : OwnerReference}

/-! ## Kinds of references -/

/-- The references that make their owner the controller. -/
def controllers (references : List OwnerReference) : List OwnerReference :=
  references.filter fun r => decide (r.controller = some true)

/-- The references to the owner of a uid. -/
def ownReferences (uid : String) (references : List OwnerReference) : List OwnerReference :=
  references.filter fun r => decide (r.uid = uid)

/-- The references to other owners. -/
def others (uid : String) (references : List OwnerReference) : List OwnerReference :=
  references.filter fun r => !decide (r.uid = uid)

/-- The references to other owners that are no controllers. -/
def bystanders (uid : String) (references : List OwnerReference) : List OwnerReference :=
  (others uid references).filter fun r => decide (r.controller ≠ some true)

/-! ## What becomes of them -/

/-- The references that are not taken away. -/
def keptReferences (owner : OwnerReference) (references : List OwnerReference) : List OwnerReference :=
  references.filter fun r => decide (r.uid = owner.uid ∨ r.controller ≠ some true)

theorem ownReferences_keptReferences (owner : OwnerReference) (references : List OwnerReference) :
    ownReferences owner.uid (keptReferences owner references) = ownReferences owner.uid references := by
  rw [ownReferences, keptReferences, List.filter_filter]
  refine List.filter_congr fun r _ => ?_
  by_cases hr : r.uid = owner.uid <;> simp [hr]

theorem others_keptReferences (owner : OwnerReference) (references : List OwnerReference) :
    others owner.uid (keptReferences owner references) = bystanders owner.uid references := by
  rw [others, keptReferences, bystanders, others, List.filter_filter, List.filter_filter]
  refine List.filter_congr fun r _ => ?_
  by_cases hr : r.uid = owner.uid <;> simp [hr]

/-- The first reference to the owner becomes the owner, and any further ones stay. -/
theorem ownReferences_withController (owner : OwnerReference) (references : List OwnerReference) :
    ownReferences owner.uid (withController owner references)
      = owner :: (ownReferences owner.uid references).tail := by
  rw [← ownReferences_keptReferences owner references]
  exact @Keyed.filter_upsert _ (fun r => decide (r.uid = owner.uid)) owner (fun _ => owner)
    (decide_eq_true rfl) (fun _ _ => decide_eq_true rfl) (keptReferences owner references)

/-- Of other references just those stay that are no controllers. -/
theorem others_withController (owner : OwnerReference) (references : List OwnerReference) :
    others owner.uid (withController owner references) = bystanders owner.uid references := by
  rw [← others_keptReferences owner references]
  exact @Keyed.filter_not_upsert _ (fun r => decide (r.uid = owner.uid)) owner (fun _ => owner)
    (decide_eq_true rfl) (fun _ _ => decide_eq_true rfl) (keptReferences owner references)

/-- All controllers that there are afterwards are references to the owner. -/
theorem controllers_withController (references : List OwnerReference)
    (h : owner.controller = some true) :
    controllers (withController owner references)
      = owner :: controllers (ownReferences owner.uid references).tail := by
  have hown : controllers (withController owner references)
      = controllers (ownReferences owner.uid (withController owner references)) := by
    rw [controllers, controllers, ownReferences, List.filter_filter]
    refine List.filter_congr fun r hr => ?_
    rcases mem_withController hr with huid | hnot
    · simp [huid]
    · simp [hnot]
  rw [hown, ownReferences_withController]
  exact List.filter_cons_of_pos (decide_eq_true h)

/-! ## The only controller -/

/-- **One controller.** An owner that is to be the controller is the only one afterwards just
if no reference to it but the first was one already. The references to other owners that are
no controllers stay in their order, and making it the controller again changes nothing. -/
theorem sole_controller_iff (references : List OwnerReference)
    (h : owner.controller = some true) :
    (controllers (withController owner references) = [owner]
        ↔ ∀ r ∈ (ownReferences owner.uid references).tail, r.controller ≠ some true) ∧
      others owner.uid (withController owner references) = bystanders owner.uid references ∧
      withController owner (withController owner references) = withController owner references := by
  refine ⟨?_, others_withController owner references, withController_withController owner references⟩
  rw [controllers_withController references h, List.cons.injEq, and_iff_right rfl, controllers,
    List.filter_eq_nil_iff]
  simp only [decide_eq_true_eq, ne_eq]

/-- An agent as an owner. -/
def agentOwner : OwnerReference where
  apiVersion := Agent.apiVersion
  kind := Agent.kindName
  name := "agent"
  uid := "agent-uid"
  controller := some true

/-- An owner that is the controller, and one that is none. -/
def replacedOwner : List OwnerReference :=
  [{ agentOwner with uid := "old" }, { agentOwner with uid := "other", controller := none }]

/-- The one gives way to the agent, and the other stays. -/
theorem sole_controller_beside_bystander :
    agentOwner.controller = some true ∧
      controllers (withController agentOwner replacedOwner) = [agentOwner] ∧
      others "agent-uid" (withController agentOwner replacedOwner)
        = [{ agentOwner with uid := "other", controller := none }] := by
  obtain ⟨hsole, hothers, -⟩ :=
    sole_controller_iff replacedOwner (rfl : agentOwner.controller = some true)
  exact ⟨rfl, hsole.2 (by decide), hothers⟩

/-- Two references to the agent, of which the second makes it the controller. -/
def repeatedOwner : List OwnerReference :=
  [{ agentOwner with controller := none, blockOwnerDeletion := some true }, agentOwner]

/-- The first becomes a controller too, and the second stays one. -/
theorem second_controller_stays :
    agentOwner.controller = some true ∧
      controllers (withController agentOwner repeatedOwner) = [agentOwner, agentOwner] := by
  decide

end AgentOperator.Controller
