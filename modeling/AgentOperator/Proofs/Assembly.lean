import AgentOperator.Proofs.Inventory

/-!
AgentOperator.Proofs.Assembly — what a pass is put together of.

Once the kubelet version is known, a pass is a few kinds of steps, put one after
the other, and steps of the enforcer whose failure is caught. `Pass.Assembled`
lists them, with what all of them have in common: the version, the spec and the
owner setter, and that no certificate is at hand before one is asked for. What
holds of the steps and of putting them together holds of the pass by induction
on it.
-/

namespace AgentOperator.Dataplane

open Kube (Object)
open Pass

namespace Pass

/-- Work put together of steps for one version, spec and owner setter. -/
inductive Assembled (kubelet : String) (spec : Agent.Spec) (setOwner : Option OwnerSetter) :
    {α : Type} → Pass α → Prop where
  | pure {α : Type} (a : α) : Assembled kubelet spec setOwner (Pure.pure a)
  | bind {α β : Type} {p : Pass α} {k : α → Pass β} (hp : Assembled kubelet spec setOwner p)
      (hk : ∀ a, Assembled kubelet spec setOwner (k a)) :
    Assembled kubelet spec setOwner (p >>= k)
  | asSecret (o : Object) : Assembled kubelet spec setOwner (ofTask (Task.ofExcept o.asSecret))
  | readyReplicas (o : Object) :
    Assembled kubelet spec setOwner (ofTask (Task.ofExcept (readyReplicas o)))
  | ofSecretData (stored : Dict Bytes) :
    Assembled kubelet spec setOwner (ofTask (Task.ofExcept (TlsMaterial.ofSecretData stored)))
  | nodeCount : Assembled kubelet spec setOwner (ofTask Task.nodeCount)
  | applied (c : Component) {s : Surroundings} {opts : ApplyOptions} (hkubelet : s.kubelet = kubelet)
      (hissued : s.issued = ({} : Surroundings).issued) (hopts : opts.setOwner = setOwner) :
    Assembled kubelet spec setOwner (applied c s spec opts)
  | deleteIfExists (c : Component) :
    Assembled kubelet spec setOwner (ofTask (deleteIfExists c kubelet spec))
  | orPullWebhooks {α : Type} {p : Pass α} (hp : Assembled kubelet spec setOwner p) :
    Assembled kubelet spec setOwner (orPullWebhooks kubelet spec p)

variable {kubelet : String} {spec : Agent.Spec} {setOwner : Option OwnerSetter} {s : Surroundings}
  {opts : ApplyOptions} {cs : List Component}

theorem assembled_deleteAll : Assembled kubelet spec setOwner (deleteAll kubelet spec cs) := by
  induction cs with
  | nil => exact .pure _
  | cons c cs ih => exact (Assembled.deleteIfExists c).bind fun _ => ih.bind fun _ => .pure _

section

variable (hkubelet : s.kubelet = kubelet) (hissued : s.issued = ({} : Surroundings).issued)
  (hopts : opts.setOwner = setOwner)
include hkubelet hissued hopts

theorem assembled_applyAll : Assembled kubelet spec setOwner (applyAll s spec opts cs) := by
  induction cs with
  | nil => exact .pure _
  | cons c cs ih =>
    exact (Assembled.applied c hkubelet hissued hopts).bind fun _ => ih.bind fun _ => .pure _

theorem assembled_applyIf (wanted : Bool) :
    Assembled kubelet spec setOwner (applyIf wanted s spec opts cs) := by
  unfold applyIf
  split
  · exact assembled_applyAll hkubelet hissued hopts
  · rw [hkubelet]
    exact assembled_deleteAll

theorem assembled_applyResolver : Assembled kubelet spec setOwner (applyResolver s spec opts) := by
  unfold applyResolver
  dsimp only
  split
  · exact Assembled.nodeCount.bind fun nodes => assembled_applyAll hkubelet hissued hopts
  · rw [hkubelet]
    exact assembled_deleteAll

theorem assembled_applyWebhooks (stored : Dict Bytes) :
    Assembled kubelet spec setOwner (applyWebhooks s spec opts stored) := by
  unfold applyWebhooks
  apply (Assembled.ofSecretData stored).bind
  intro tls
  have happlied (c : Component) : Assembled kubelet spec setOwner
      (Pass.applied c { s with tls := some tls } spec opts) := .applied c hkubelet hissued hopts
  apply (happlied .validatingWebhook).bind
  intro validating
  split
  · simp only [map_eq_pure_bind, bind_assoc, pure_bind]
    exact (happlied .mutatingWebhook).bind fun _ => .pure _
  · rw [hkubelet]
    exact assembled_deleteAll.bind fun _ => .pure _

theorem assembled_applyEnforcer : Assembled kubelet spec setOwner (applyEnforcer s spec opts) := by
  have hguarded (c : Component) (opts' : ApplyOptions) (h : opts'.setOwner = setOwner) :
      Assembled kubelet spec setOwner
        (Dataplane.orPullWebhooks kubelet spec (Pass.applied c s spec opts')) :=
    .orPullWebhooks (.applied c hkubelet hissued h)
  unfold applyEnforcer
  rw [hkubelet]
  apply (hguarded .enforcerTls { opts with createOnly := true } hopts).bind
  intro secret
  apply (Assembled.asSecret secret.object).bind
  intro stored
  apply (hguarded .enforcerService opts hopts).bind
  intro service
  apply (hguarded .enforcer opts hopts).bind
  intro deployment
  apply (Assembled.readyReplicas deployment.object).bind
  intro ready
  split
  · exact assembled_deleteAll.bind fun _ => .pure _
  · exact (assembled_applyWebhooks hkubelet hissued hopts _).bind fun _ => .pure _

theorem assembled_applyLater (changed : Bool) :
    Assembled kubelet spec setOwner (applyLater s spec opts changed) := by
  unfold applyLater
  apply (assembled_applyAll hkubelet hissued hopts).bind
  intro stateReporter
  apply (assembled_applyResolver hkubelet hissued hopts).bind
  intro resolver
  apply (assembled_applyIf hkubelet hissued hopts _).bind
  intro reporter
  exact (assembled_applyIf hkubelet hissued hopts _).bind fun nodeAgent => .pure _

end

/-- The whole of a pass, once the version is known. -/
theorem assembled_applyKnown (registry : RegistryCredentials) :
    Assembled kubelet spec setOwner (applyKnown kubelet spec registry setOwner) := by
  let s : Surroundings := { kubelet, registry := some registry }
  have hkubelet : s.kubelet = kubelet := rfl
  have hissued : s.issued = ({} : Surroundings).issued := rfl
  have hopts : ({ setOwner } : ApplyOptions).setOwner = setOwner := rfl
  unfold applyKnown
  apply (assembled_applyAll hkubelet hissued hopts).bind
  intro core
  apply (assembled_applyEnforcer hkubelet hissued hopts).bind
  intro enforcer
  exact assembled_applyLater hkubelet hissued hopts _

end Pass

end AgentOperator.Dataplane
