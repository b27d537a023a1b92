import AgentOperator.Proofs.Anchors
import AgentOperator.Proofs.Moments
import Mathlib.Logic.Relation

/-!
AgentOperator.Proofs.Steps — what a pass can do to a placed store, step by step.

`Step` lists it: a component is brought to the spec, or deleted. A certificate is
only made where there is none, the enforcer is never deleted, and a webhook is
only brought to the spec while the enforcer it leads to is hosted, with the
authority that the webhook is given.

`Pass.Treads` says of a pass that it goes by such steps, so that what a step
preserves is preserved at every request and however the pass ends, and what it
leaves on success. It is walked through a pass one construct at a time.
-/

namespace AgentOperator.Dataplane

open Pass
open Store (Place Table placeOf)

variable {α β : Type} {x : Setting} {c d : Component} {kubelet : String} {s : Surroundings}
  {spec spec' : Agent.Spec} {opts : ApplyOptions} {cs ds : List Component} {p : Place}
  {t t' : Table}

/-! ## Steps -/

/-- The components of the enforcer itself. -/
def enforcerComponents : List Component := [.enforcerTls, .enforcerService, .enforcer]

/-- What one step about one of these components can do to the store. -/
inductive Step (spec : Agent.Spec) (cs : List Component) (t : Table) : Table → Prop where
  | apply {x : Setting} {c : Component} {s : Surroundings} {opts : ApplyOptions}
      {r : Except Error Applied} {t' : Table} (hc : c ∈ cs) (h : Applying x c s spec opts t r t')
      (hopts : opts.Proper) (honly : c = .enforcerTls → opts.createOnly = true)
      (hleads : c ∈ webhooks → ∃ tls, s.tls = some tls ∧ Hosted t spec.namespace tls.caCert) :
      Step spec cs t t'
  | delete {c : Component} {kubelet : String} {r : Except Error Bool} {t' : Table} (hc : c ∈ cs)
      (h : Deleting c kubelet spec t r t') (henforcer : c ∉ enforcerComponents) : Step spec cs t t'

theorem Step.placed (h : Step spec cs t t') (ht : Placed t) : Placed t' := by
  cases h with
  | apply hc h hopts => exact h.placed hopts ht
  | delete hc h => exact h.placed ht

/-- Only these components of the spec are touched. -/
theorem Step.get?_of_ne (h : Step spec cs t t') (ht : Placed t)
    (hp : ∀ c ∈ cs, p ≠ c.place spec) : t'.get? p = t.get? p := by
  cases h with
  | apply hc h hopts => exact h.get?_of_ne hopts ht (hp _ hc)
  | delete hc h => exact h.get?_of_ne ht (hp _ hc)

/-- The enforcer stays where it is, whatever spec it was made for. -/
theorem Step.isSome_enforcer (h : Step spec cs t t') (ht : Placed t) (hd : d ∈ enforcerComponents)
    (hp : (t.get? (d.place spec')).isSome = true) : (t'.get? (d.place spec')).isSome = true := by
  cases h with
  | apply hc h => exact h.isSome_get? hp
  | delete hc h henforcer =>
    rw [h.get?_of_ne ht]
    · exact hp
    · intro hplace
      cases Component.eq_of_place hplace
      exact henforcer hd

/-- A certificate that is there stays as it is, whatever spec it was made for. -/
theorem Step.get?_certificate (h : Step spec cs t t') (ht : Placed t)
    (hp : (t.get? (Component.enforcerTls.place spec')).isSome = true) :
    t'.get? (Component.enforcerTls.place spec') = t.get? (Component.enforcerTls.place spec') := by
  cases h with
  | @apply x c s opts r t' hc h hopts honly =>
    by_cases hc : c = .enforcerTls
    · exact h.get?_of_createOnly hopts ht (honly hc) hp
    · refine h.get?_of_ne hopts ht fun hplace => ?_
      exact hc (Component.eq_of_place hplace).symm
  | delete hc h henforcer =>
    refine h.get?_of_ne ht fun hplace => ?_
    cases Component.eq_of_place hplace
    exact henforcer (by decide)

/-- An enforcer that is hosted stays so, in whatever namespace. -/
theorem Hosted.step {space : String} {ca : Bytes} (hosted : Hosted t space ca)
    (h : Step spec cs t t') (ht : Placed t) : Hosted t' space ca := by
  obtain ⟨hservice, hdeployment, j, secret, hj, hdecode, hca⟩ := hosted
  -- The objects are components of a spec for that namespace.
  let there : Agent.Spec := { spec with «namespace» := space }
  have hservice' : (t'.get? (Component.enforcerService.place there)).isSome = true :=
    h.isSome_enforcer ht (by decide) hservice
  have hdeployment' : (t'.get? (Component.enforcer.place there)).isSome = true :=
    h.isSome_enforcer ht (by decide) hdeployment
  have hsame : t'.get? (Component.enforcerTls.place there) = t.get? (Component.enforcerTls.place there) :=
    h.get?_certificate ht (congrArg Option.isSome hj)
  exact ⟨hservice', hdeployment', j, secret, hsame.trans hj, hdecode, hca⟩

/-! ## Steps one after the other -/

def Steps (spec : Agent.Spec) (cs : List Component) : Table → Table → Prop :=
  Relation.ReflTransGen (Step spec cs)

theorem Steps.mono (h : Steps spec cs t t') (hsub : ∀ c ∈ cs, c ∈ ds) : Steps spec ds t t' := by
  refine Relation.ReflTransGen.mono (fun u v hstep => ?_) _ _ h
  cases hstep with
  | apply hc h hopts honly hleads => exact .apply (hsub _ hc) h hopts honly hleads
  | delete hc h henforcer => exact .delete (hsub _ hc) h henforcer

/-- What one step preserves on placed stores, all of them do. -/
theorem Steps.preserves {J : Table → Prop}
    (hstep : ∀ {u v}, Placed u → Step spec cs u v → J u → J v) (h : Steps spec cs t t')
    (ht : Placed t) (hj : J t) : Placed t' ∧ J t' := by
  induction h with
  | refl => exact ⟨ht, hj⟩
  | tail _ hlast ih => exact ⟨hlast.placed ih.1, hstep ih.1 hlast ih.2⟩

theorem Steps.placed (h : Steps spec cs t t') (ht : Placed t) : Placed t' :=
  (h.preserves (J := fun _ => True) (fun _ _ _ => trivial) ht trivial).1

theorem Steps.get?_of_ne (h : Steps spec cs t t') (ht : Placed t)
    (hp : ∀ c ∈ cs, p ≠ c.place spec) : t'.get? p = t.get? p := by
  refine (h.preserves (J := fun u => u.get? p = t.get? p) ?_ ht rfl).2
  intro u v hu hstep hj
  rw [hstep.get?_of_ne hu hp, hj]

/-- Other components stay as they were. -/
theorem Steps.get?_place (h : Steps spec cs t t') (ht : Placed t) (hd : d ∉ cs) :
    t'.get? (d.place spec) = t.get? (d.place spec) := by
  refine h.get?_of_ne ht fun c hc hplace => ?_
  exact hd (Component.eq_of_place hplace ▸ hc)

theorem Steps.get?_certificate (h : Steps spec cs t t') (ht : Placed t)
    (hp : (t.get? (Component.enforcerTls.place spec')).isSome = true) :
    t'.get? (Component.enforcerTls.place spec') = t.get? (Component.enforcerTls.place spec') := by
  refine (h.preserves (J := fun u => u.get? (Component.enforcerTls.place spec')
    = t.get? (Component.enforcerTls.place spec')) ?_ ht rfl).2
  intro u v hu hstep hj
  rw [hstep.get?_certificate hu (hj ▸ hp), hj]

theorem Hosted.steps {space : String} {ca : Bytes} (hosted : Hosted t space ca)
    (h : Steps spec cs t t') (ht : Placed t) : Hosted t' space ca :=
  (h.preserves (J := fun u => Hosted u space ca) (fun hu hstep hj => hj.step hstep hu) ht hosted).2

/-! ## What is asked on the way -/

/-- A request that leaves certificates alone: one is asked for, or written, only
where there is none. -/
def SparesCertificates (spec : Agent.Spec) (t : Table) : Request → Prop
  | .issueTls _ => t.get? (Component.enforcerTls.place spec) = none
  | .store call => call.isWrite = true → ∀ spec', call.place = Component.enforcerTls.place spec' →
      t.get? call.place = none
  | _ => True

/-- While a component is brought to the spec, the store is the one it was read
from, and certificates are left alone. -/
theorem moments_apply (hopts : opts.Proper) (honly : c = .enforcerTls → opts.createOnly = true)
    {v : Moment} {w : Scene} (ht : Placed w.store)
    (hv : v ∈ Task.moments x (apply c s spec opts) w) :
    v.scene.store = w.store ∧ SparesCertificates spec w.store v.request := by
  unfold apply at hv
  rcases Task.mem_moments_bind hv with hget | ⟨found, w₁, hget, hnext⟩
  · cases List.mem_singleton.1 hget
    exact ⟨rfl, fun hwrite => by cases hwrite⟩
  obtain ⟨hstore, hread⟩ := Setting.call_get hget
  replace hread : c.stored s.kubelet spec w.store = .ok found := hread found rfl
  rw [← hstore] at hread ht ⊢
  cases found with
  | none =>
    have habsent := Table.get?_of_read_eq_none hread
    rw [emptyObject_kind] at habsent
    rcases moments_desired (emptyObject_kind c _) hnext with ⟨rfl, rfl⟩ | ⟨o, hwanted, hcreate⟩
    · exact ⟨rfl, habsent⟩
    · cases moments_write hcreate
      refine ⟨rfl, fun _ spec' _ => ?_⟩
      have hplace : placeOf o = c.place spec := ht.place_of_wanted (x := x) hopts hread hwanted
      show w₁.store.get? (placeOf o) = none
      rw [hplace]
      exact habsent
  | some observed =>
    by_cases hcreate : opts.createOnly = true
    · simp only [hcreate, if_true] at hnext
      cases hnext
    · simp only [hcreate, Bool.false_eq_true, if_false] at hnext
      have hc : c ≠ .enforcerTls := fun hc => hcreate (honly hc)
      have hkind := stored_kind hread
      rcases moments_desired (f := id) hkind hnext with ⟨htls, -⟩ | ⟨o, hwanted, hupdate⟩
      · exact absurd htls hc
      · by_cases hsame : o = observed
        · simp only [hsame, if_true] at hupdate
          cases hupdate
        · simp only [hsame, if_false] at hupdate
          cases moments_write hupdate
          refine ⟨rfl, fun _ spec' hcertificate => ?_⟩
          have hplace : placeOf o = c.place spec := ht.place_of_wanted (x := x) hopts hread hwanted
          exact absurd (Component.eq_of_place (hplace.symm.trans hcertificate)) hc

theorem moments_deleteIfExists (hc : c ≠ .enforcerTls) {v : Moment} {w : Scene}
    (ht : Placed w.store) (hv : v ∈ Task.moments x (deleteIfExists c kubelet spec) w) :
    v.scene.store = w.store ∧ SparesCertificates spec w.store v.request := by
  unfold deleteIfExists at hv
  rcases Task.mem_moments_bind hv with hget | ⟨found, w₁, hget, hnext⟩
  · cases List.mem_singleton.1 hget
    exact ⟨rfl, fun hwrite => by cases hwrite⟩
  obtain ⟨hstore, hread⟩ := Setting.call_get hget
  replace hread : c.stored kubelet spec w.store = .ok found := hread found rfl
  cases found with
  | none => cases hnext
  | some o =>
    cases moments_write hnext
    refine ⟨hstore, fun _ spec' hcertificate => ?_⟩
    have hplace : placeOf o = c.place spec := ht.place_of_stored hread
    exact absurd (Component.eq_of_place (hplace.symm.trans hcertificate)) hc

/-! ## Passes that go by steps -/

namespace Pass

/-- From a placed store with `P`, the pass goes by steps about these components and
leaves certificates alone, and when it succeeds, `Q` holds of the result. -/
structure Treads (x : Setting) (spec : Agent.Spec) (cs : List Component) (P : Table → Prop)
    (p : Pass α) (Q : α → Table → Prop) : Prop where
  moment : ∀ {m w}, Placed w.store → P w.store → ∀ v ∈ moments x p m w,
    Steps spec cs w.store v.scene.store ∧ SparesCertificates spec v.scene.store v.request
  after : ∀ {m w r m' w'}, Placed w.store → P w.store → runIn x p m w = ((r, m'), w') →
    Steps spec cs w.store w'.store ∧ ∀ a, r = .ok a → Q a w'.store

variable {P P' : Table → Prop} {p : Pass α} {Q Q' : α → Table → Prop} {R : β → Table → Prop}

theorem Treads.pure {a : α} (h : ∀ t, P t → Q a t) : Treads x spec cs P (Pure.pure a) Q := by
  refine ⟨fun _ _ v hv => (by cases hv), fun _ hP hrun => ?_⟩
  cases hrun
  refine ⟨.refl, fun b hb => ?_⟩
  cases hb
  exact h _ hP

theorem Treads.throw (e : Error) : Treads x spec cs P (MonadExcept.throw e : Pass α) Q := by
  refine ⟨fun _ _ v hv => (by cases hv), fun _ _ hrun => ?_⟩
  cases hrun
  exact ⟨.refl, fun b hb => (by cases hb)⟩

theorem Treads.bind {f : α → Pass β} (hp : Treads x spec cs P p Q)
    (hf : ∀ a, Treads x spec cs (Q a) (f a) R) : Treads x spec cs P (p >>= f) R := by
  refine ⟨fun hw hP v hv => ?_, fun hw hP hrun => ?_⟩
  · rcases mem_moments_bind hv with hfirst | ⟨a, m₁, w₁, hrun, hnext⟩
    · exact hp.moment hw hP v hfirst
    · obtain ⟨hsteps, hQ⟩ := hp.after hw hP hrun
      obtain ⟨hsteps', hspares⟩ := (hf a).moment (hsteps.placed hw) (hQ a rfl) v hnext
      exact ⟨hsteps.trans hsteps', hspares⟩
  · rcases runIn_bind_eq.1 hrun with ⟨e, hstop, rfl⟩ | ⟨a, m₁, w₁, hfirst, hnext⟩
    · exact ⟨(hp.after hw hP hstop).1, fun b hb => (by cases hb)⟩
    · obtain ⟨hsteps, hQ⟩ := hp.after hw hP hfirst
      obtain ⟨hsteps', hR⟩ := (hf a).after (hsteps.placed hw) (hQ a rfl) hnext
      exact ⟨hsteps.trans hsteps', hR⟩

/-- What is done on failure starts from any placed store. -/
theorem Treads.tryCatch {handler : Error → Pass α} (hp : Treads x spec cs P p Q)
    (hhandler : ∀ e, Treads x spec cs (fun _ => True) (handler e) Q) :
    Treads x spec cs P (MonadExcept.tryCatch p handler) Q := by
  refine ⟨fun hw hP v hv => ?_, fun {m w _ _ _} hw hP hrun => ?_⟩
  · rcases mem_moments_tryCatch hv with hfirst | ⟨e, m₁, w₁, hrun, hnext⟩
    · exact hp.moment hw hP v hfirst
    · obtain ⟨hsteps, -⟩ := hp.after hw hP hrun
      obtain ⟨hsteps', hspares⟩ := (hhandler e).moment (hsteps.placed hw) trivial v hnext
      exact ⟨hsteps.trans hsteps', hspares⟩
  · rw [runIn_tryCatch] at hrun
    rcases hfirst : runIn x p m w with ⟨⟨e | a, m₁⟩, w₁⟩ <;> rw [hfirst] at hrun
    · obtain ⟨hsteps, -⟩ := hp.after hw hP hfirst
      obtain ⟨hsteps', hQ⟩ := (hhandler e).after (hsteps.placed hw) trivial hrun
      exact ⟨hsteps.trans hsteps', hQ⟩
    · cases hrun
      exact hp.after hw hP hfirst

theorem Treads.imp (hp : Treads x spec cs P p Q) (hP : ∀ t, P' t → P t)
    (hQ : ∀ a t, Q a t → Q' a t) : Treads x spec cs P' p Q' := by
  refine ⟨fun hw hP' v hv => hp.moment hw (hP _ hP') v hv, ?_⟩
  intro m w r m' w' hw hP' hrun
  obtain ⟨hsteps, hafter⟩ := hp.after hw (hP _ hP') hrun
  exact ⟨hsteps, fun a ha => hQ a _ (hafter a ha)⟩

/-- What is known beside the store is known all the time. -/
theorem Treads.of_known {φ : Prop} (hp : φ → Treads x spec cs P p Q) :
    Treads x spec cs (fun t => φ ∧ P t) p Q :=
  ⟨fun hw hP v hv => (hp hP.1).moment hw hP.2 v hv,
    fun hw hP hrun => (hp hP.1).after hw hP.2 hrun⟩

theorem Treads.mono (hp : Treads x spec cs P p Q) (hsub : ∀ c ∈ cs, c ∈ ds) :
    Treads x spec ds P p Q := by
  refine ⟨fun hw hP v hv => ?_, fun hw hP hrun => ?_⟩
  · obtain ⟨hsteps, hspares⟩ := hp.moment hw hP v hv
    exact ⟨hsteps.mono hsub, hspares⟩
  · obtain ⟨hsteps, hQ⟩ := hp.after hw hP hrun
    exact ⟨hsteps.mono hsub, hQ⟩

/-- What no step about these components touches is still there. -/
theorem Treads.frame {J : Table → Prop} (hp : Treads x spec cs P p Q)
    (hJ : ∀ {u v}, Placed u → Steps spec cs u v → J u → J v) :
    Treads x spec cs (fun t => P t ∧ J t) p fun a t => Q a t ∧ J t := by
  refine ⟨fun hw hP v hv => hp.moment hw hP.1 v hv, fun hw hP hrun => ?_⟩
  obtain ⟨hsteps, hQ⟩ := hp.after hw hP.1 hrun
  exact ⟨hsteps, fun a ha => ⟨hQ a ha, hJ hw hsteps hP.2⟩⟩

/-- What a pass leaves, it still leaves after another one that does not touch it. -/
theorem Treads.before {J : Table → Prop} {f : α → Pass β}
    (hp : Treads x spec cs P p fun _ => J) (hf : ∀ a, Treads x spec ds (fun _ => True) (f a) R)
    (hJ : ∀ {u v}, Placed u → Steps spec ds u v → J u → J v) :
    Treads x spec (cs ++ ds) P (p >>= f) fun b t => R b t ∧ J t := by
  refine (hp.mono fun c => List.mem_append_left ds).bind fun a => ?_
  have hnext : Treads x spec ds J (f a) fun b t => R b t ∧ J t :=
    ((hf a).frame hJ).imp (fun _ hj => ⟨trivial, hj⟩) fun _ _ h => h
  exact hnext.mono fun c => List.mem_append_right cs

theorem treads_ofExcept (r : Except Error α) :
    Treads x spec cs P (ofTask (Task.ofExcept r)) fun a t => r = .ok a ∧ P t := by
  refine ⟨fun _ _ v hv => ?_, fun _ hP hrun => ?_⟩
  · rw [moments_ofTask] at hv
    cases hv
  · obtain ⟨-, htask⟩ := runIn_ofTask_eq.1 hrun
    cases htask
    exact ⟨.refl, fun a ha => ⟨ha, hP⟩⟩

theorem treads_kubeletVersion : Treads x spec cs P kubeletVersion fun _ => P := by
  refine ⟨fun _ _ v hv => ?_, fun _ hP hrun => ?_⟩
  · cases moments_kubeletVersion hv
    exact ⟨.refl, trivial⟩
  · cases runIn_kubeletVersion_scene hrun
    exact ⟨.refl, fun _ _ => hP⟩

theorem treads_nodeCount : Treads x spec cs P (ofTask Task.nodeCount) fun _ => P := by
  refine ⟨fun _ _ v hv => ?_, fun _ hP hrun => ?_⟩
  · rw [moments_ofTask] at hv
    cases List.mem_singleton.1 hv
    exact ⟨.refl, trivial⟩
  · obtain ⟨-, htask⟩ := runIn_ofTask_eq.1 hrun
    rw [Task.runIn_nodeCount] at htask
    obtain ⟨-, rfl⟩ := Prod.mk.inj htask
    exact ⟨.refl, fun _ _ => hP⟩

/-- How bringing a component to the spec went is known from the store before it. -/
theorem treads_applied (hopts : opts.Proper) (honly : c = .enforcerTls → opts.createOnly = true)
    (hleads : ∀ t, P t → c ∈ webhooks →
      ∃ tls, s.tls = some tls ∧ Hosted t spec.namespace tls.caCert) :
    Treads x spec [c] P (applied c s spec opts) fun a t' =>
      ∃ t, Placed t ∧ P t ∧ Applying x c s spec opts t (.ok a) t' := by
  have hc : c ∈ [c] := List.mem_singleton_self c
  refine ⟨fun hw hP v hv => ?_, fun hw hP hrun => ?_⟩
  · unfold applied at hv
    rcases mem_moments_bind hv with happly | ⟨a, m₁, w₁, -, hcount⟩
    · rw [moments_ofTask] at happly
      obtain ⟨hstore, hspares⟩ := moments_apply hopts honly hw happly
      rw [hstore]
      exact ⟨.refl, hspares⟩
    · split at hcount <;> cases hcount
  · obtain ⟨-, happly⟩ := applying_of_applied hrun
    refine ⟨.single (.apply hc happly hopts honly (hleads _ hP)), ?_⟩
    rintro a rfl
    exact ⟨_, hw, hP, happly⟩

theorem treads_deleteIfExists (hc : c ∉ enforcerComponents) :
    Treads x spec [c] P (ofTask (deleteIfExists c kubelet spec))
      fun _ t => t.get? (c.place spec) = none := by
  refine ⟨fun hw hP v hv => ?_, fun hw hP hrun => ?_⟩
  · have hne : c ≠ .enforcerTls := by
      rintro rfl
      exact hc (by decide)
    rw [moments_ofTask] at hv
    obtain ⟨hstore, hspares⟩ := moments_deleteIfExists hne hw hv
    rw [hstore]
    exact ⟨.refl, hspares⟩
  · obtain ⟨-, htask⟩ := runIn_ofTask_eq.1 hrun
    have hdelete := deleting_of_runIn htask
    refine ⟨.single (.delete (List.mem_singleton_self c) hdelete hc), ?_⟩
    rintro a rfl
    exact hdelete.absent_after hw

end Pass

end AgentOperator.Dataplane
