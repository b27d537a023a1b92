import AgentOperator.Proofs.Applying

/-!
AgentOperator.Proofs.Frames — what the parts of a pass leave alone, on any store
and however they end.

Nothing is asked of the store here: an object may be stored under a key that is
not its own, and then a write goes elsewhere. It still goes to an object of the
component's kind, so objects of other kinds are left alone by whatever is done
about a component.
-/

namespace AgentOperator.Dataplane.Pass

open Kube (Kind)
open Store (Place Table)

variable {α β : Type} {x : Setting} {kinds : List Kind} {p : Pass α} {s : Surroundings}
  {spec : Agent.Spec} {opts : ApplyOptions} {cs : List Component}

/-- However the pass ends, objects of these kinds are as they were. -/
structure Spares (x : Setting) (kinds : List Kind) (p : Pass α) : Prop where
  same : ∀ {m w r m' w'}, runIn x p m w = ((r, m'), w') →
    ∀ q : Place, q.kind ∈ kinds → w'.store.get? q = w.store.get? q

theorem Spares.pure (a : α) : Spares x kinds (Pure.pure a : Pass α) := by
  refine ⟨fun {m w r m' w'} hrun q hq => ?_⟩
  cases hrun
  rfl

theorem Spares.bind {f : α → Pass β} (hp : Spares x kinds p) (hf : ∀ a, Spares x kinds (f a)) :
    Spares x kinds (p >>= f) := by
  refine ⟨fun {m w r m' w'} hrun q hq => ?_⟩
  rcases runIn_bind_eq.1 hrun with ⟨e, hstop, rfl⟩ | ⟨a, m₁, w₁, hfirst, hnext⟩
  · exact hp.same hstop q hq
  · rw [(hf a).same hnext q hq, hp.same hfirst q hq]

theorem spares_ofExcept (r : Except Error α) : Spares x kinds (ofTask (Task.ofExcept r)) := by
  refine ⟨fun {m w r m' w'} hrun q hq => ?_⟩
  obtain ⟨-, htask⟩ := runIn_ofTask_eq.1 hrun
  cases htask
  rfl

theorem spares_kubeletVersion : Spares x kinds kubeletVersion := by
  refine ⟨fun {m w r m' w'} hrun q hq => ?_⟩
  cases hm : m.kubelet with
  | some kubelet =>
    rw [runIn_kubeletVersion_of_known hm] at hrun
    cases hrun
    rfl
  | none =>
    rw [runIn_kubeletVersion_of_unknown hm] at hrun
    cases hx : x.kubelet <;> rw [hx] at hrun <;> cases hrun <;> rfl

theorem spares_nodeCount : Spares x kinds (ofTask Task.nodeCount) := by
  refine ⟨fun {m w r m' w'} hrun q hq => ?_⟩
  obtain ⟨-, htask⟩ := runIn_ofTask_eq.1 hrun
  rw [Task.runIn_nodeCount] at htask
  obtain ⟨-, rfl⟩ := Prod.mk.inj htask
  rfl

theorem spares_applied {c : Component} (hc : c.kind ∉ kinds) :
    Spares x kinds (applied c s spec opts) := by
  refine ⟨fun {m w r m' w'} hrun q hq => ?_⟩
  obtain ⟨-, happly⟩ := applying_of_applied hrun
  exact happly.get?_of_kind_ne fun heq => hc (heq ▸ hq)

theorem spares_deleteIfExists {c : Component} {kubelet : String} (hc : c.kind ∉ kinds) :
    Spares x kinds (ofTask (deleteIfExists c kubelet spec)) := by
  refine ⟨fun {m w r m' w'} hrun q hq => ?_⟩
  obtain ⟨-, htask⟩ := runIn_ofTask_eq.1 hrun
  exact (deleting_of_runIn htask).get?_of_kind_ne fun heq => hc (heq ▸ hq)

theorem spares_applyAll (hcs : ∀ c ∈ cs, c.kind ∉ kinds) :
    Spares x kinds (applyAll s spec opts cs) := by
  induction cs with
  | nil => exact .pure false
  | cons c cs ih =>
    obtain ⟨hc, hcs⟩ := List.forall_mem_cons.1 hcs
    exact (spares_applied hc).bind fun a => (ih hcs).bind fun b => .pure (a.changed || b)

theorem spares_deleteAll {kubelet : String} (hcs : ∀ c ∈ cs, c.kind ∉ kinds) :
    Spares x kinds (deleteAll kubelet spec cs) := by
  induction cs with
  | nil => exact .pure false
  | cons c cs ih =>
    obtain ⟨hc, hcs⟩ := List.forall_mem_cons.1 hcs
    exact (spares_deleteIfExists hc).bind fun a => (ih hcs).bind fun b => .pure (a || b)

theorem spares_applyIf {wanted : Bool} (hcs : ∀ c ∈ cs, c.kind ∉ kinds) :
    Spares x kinds (applyIf wanted s spec opts cs) := by
  unfold applyIf
  split
  · exact spares_applyAll hcs
  · exact spares_deleteAll hcs

theorem spares_applyResolver (hservice : Kind.service ∉ kinds) (hdeployment : Kind.deployment ∉ kinds) :
    Spares x kinds (applyResolver s spec opts) := by
  have hcs : ∀ c ∈ [Component.resolverService, .resolver], c.kind ∉ kinds := by
    intro c hc
    rcases List.mem_pair.1 hc with rfl | rfl
    · exact hservice
    · exact hdeployment
  unfold applyResolver
  dsimp only
  split
  · exact spares_nodeCount.bind fun nodes => spares_applyAll hcs
  · exact spares_deleteAll hcs

end AgentOperator.Dataplane.Pass
