import AgentOperator.Proofs.Steps
import AgentOperator.Proofs.Withdrawal

/-!
AgentOperator.Proofs.Inventory — what is stored after a pass.

Every part of a pass treads by steps about its own components, and when it
succeeds these are stored just as far as they are due (`Stocked`): as the spec
asks for them, and the webhooks only while the enforcer has a replica that is
ready. Parts are about different components, so what one leaves the others keep,
and a pass that succeeds leaves all of the dataplane stocked and nothing else
changed (`applyDesiredState_inventory`).
-/

namespace AgentOperator.Dataplane

open Kube (Deployment Object Secret)
open Pass
open Store (Place Table)

variable {α : Type} {x : Setting} {c d : Component} {kubelet : String} {s : Surroundings}
  {spec : Agent.Spec} {opts : ApplyOptions} {cs ds : List Component} {t t' : Table}
  {P : Table → Prop}

/-! ## What is due -/

/-- Whether the spec asks for a component. -/
def Component.enabled (spec : Agent.Spec) : Component → Bool
  | .mutatingWebhook => spec.components.basic.enforcer.enableEnforcementFeature
  | .resolverService | .resolver => spec.components.runtimeProtection.enabled
  | .imageScanningReporterService | .imageScanningReporter =>
    spec.components.clusterScanning.enabled
  | .nodeAgent => spec.components.runtimeProtection.enabled || spec.components.clusterScanning.enabled
  | _ => true

/-- The stored deployment of the enforcer has a replica that is ready. -/
def EnforcerReady (spec : Agent.Spec) (t : Table) : Prop :=
  ∃ j d, t.get? (Component.enforcer.place spec) = some j ∧ Deployment.codec.decode j = .ok d ∧
    1 ≤ (d.status.bind (·.readyReplicas)).getD 0

/-- A component is due if the spec asks for it, a webhook only while the enforcer
is ready. -/
def Component.Due (c : Component) (spec : Agent.Spec) (t : Table) : Prop :=
  c.enabled spec = true ∧ (c ∈ webhooks → EnforcerReady spec t)

/-- Of these components, those that are due are stored. -/
def Stocked (spec : Agent.Spec) (cs : List Component) (t : Table) : Prop :=
  ∀ c ∈ cs, (t.get? (c.place spec)).isSome = true ↔ c.Due spec t

theorem Stocked.append (h : Stocked spec cs t) (h' : Stocked spec ds t) :
    Stocked spec (cs ++ ds) t := by
  intro c hc
  rcases List.mem_append.1 hc with hc | hc
  · exact h c hc
  · exact h' c hc

theorem EnforcerReady.congr (h : t'.get? (Component.enforcer.place spec)
    = t.get? (Component.enforcer.place spec)) : EnforcerReady spec t' ↔ EnforcerReady spec t := by
  unfold EnforcerReady
  rw [h]

/-- Steps about other components leave these stocked. Webhooks would also follow
the enforcer. -/
theorem Stocked.steps (h : Stocked spec ds t) (hsteps : Steps spec cs t t') (ht : Placed t)
    (hdisjoint : ∀ d ∈ ds, d ∉ cs) (hready : (∀ d ∈ ds, d ∉ webhooks) ∨ .enforcer ∉ cs) :
    Stocked spec ds t' := by
  intro d hd
  rw [hsteps.get?_place ht (hdisjoint d hd), h d hd]
  unfold Component.Due
  rcases hready with hnone | henforcer
  · have hd' := hnone d hd
    simp only [hd', false_implies]
  · rw [EnforcerReady.congr (hsteps.get?_place ht henforcer)]

/-- All of these components are stored, or none of them is. -/
def AllStored (spec : Agent.Spec) (cs : List Component) (b : Bool) (t : Table) : Prop :=
  ∀ c ∈ cs, (t.get? (c.place spec)).isSome = b

theorem AllStored.stocked {b : Bool} (h : AllStored spec cs b t)
    (hcs : ∀ c ∈ cs, c.enabled spec = b ∧ c ∉ webhooks) : Stocked spec cs t := by
  intro c hc
  obtain ⟨henabled, hwebhook⟩ := hcs c hc
  rw [h c hc, Component.Due, henabled]
  exact ⟨fun hb => ⟨hb, fun hmem => absurd hmem hwebhook⟩, fun hdue => hdue.1⟩

theorem allStored_singleton {b : Bool} :
    AllStored spec [c] b t ↔ (t.get? (c.place spec)).isSome = b := by
  constructor
  · intro h
    exact h c (List.mem_singleton_self c)
  · rintro h d hd
    cases List.mem_singleton.1 hd
    exact h

theorem AllStored.append {b : Bool} (h : AllStored spec cs b t) (h' : AllStored spec ds b t) :
    AllStored spec (cs ++ ds) b t := by
  intro c hc
  rcases List.mem_append.1 hc with hc | hc
  · exact h c hc
  · exact h' c hc

theorem AllStored.steps {b : Bool} (h : AllStored spec ds b t) (hsteps : Steps spec cs t t')
    (ht : Placed t) (hdisjoint : ∀ d ∈ ds, d ∉ cs) : AllStored spec ds b t' := by
  intro d hd
  rw [hsteps.get?_place ht (hdisjoint d hd)]
  exact h d hd

/-! ## What is known to be stored -/

/-- What is stored of these components. -/
def Holds (kubelet : String) (spec : Agent.Spec) (known : List (Component × Object)) (t : Table) :
    Prop :=
  ∀ e ∈ known, e.1.stored kubelet spec t = .ok (some e.2)

theorem isSome_of_stored {o : Object} (h : c.stored kubelet spec t = .ok (some o)) :
    (t.get? (c.place spec)).isSome = true := by
  obtain ⟨j, hj, -⟩ := Table.get?_of_read_eq_some h
  rw [emptyObject_kind] at hj
  exact congrArg Option.isSome hj

theorem Holds.allStored {known : List (Component × Object)} (h : Holds kubelet spec known t)
    (hcs : ∀ c ∈ cs, c ∈ known.map (·.1)) : AllStored spec cs true t := by
  intro c hc
  obtain ⟨e, he, rfl⟩ := List.mem_map.1 (hcs c hc)
  exact isSome_of_stored (h e he)

theorem Holds.steps {known : List (Component × Object)} (h : Holds kubelet spec known t)
    (hsteps : Steps spec cs t t') (ht : Placed t) (hdisjoint : ∀ e ∈ known, e.1 ∉ cs) :
    Holds kubelet spec known t' := by
  intro e he
  rw [stored_congr (hsteps.get?_place ht (hdisjoint e he))]
  exact h e he

namespace Pass

/-- A component that was brought to the spec is known, beside those that are known
already. -/
theorem treads_applied_holds {known : List (Component × Object)} (hopts : opts.Proper)
    (honly : c = .enforcerTls → opts.createOnly = true) (hc : c ∉ webhooks)
    (hnew : ∀ e ∈ known, e.1 ≠ c) :
    Treads x spec [c] (Holds s.kubelet spec known) (applied c s spec opts)
      fun a => Holds s.kubelet spec ((c, a.object) :: known) := by
  have hstep : Treads x spec [c] (Holds s.kubelet spec known) (applied c s spec opts) fun a t' =>
      ∃ t, Placed t ∧ Holds s.kubelet spec known t ∧ Applying x c s spec opts t (.ok a) t' :=
    treads_applied hopts honly fun _ _ hmem => absurd hmem hc
  refine hstep.imp (fun _ h => h) ?_
  rintro a t' ⟨t, ht, hknown, happly⟩ e he
  rcases List.mem_cons.1 he with rfl | he
  · exact happly.stored_after hopts ht
  · rw [stored_congr (happly.get?_of_ne hopts ht fun hplace => hnew e he (Component.eq_of_place hplace))]
    exact hknown e he

theorem treads_applyAll (hopts : opts.Proper) (hcs : ∀ c ∈ cs, c ≠ .enforcerTls ∧ c ∉ webhooks)
    (hnodup : cs.Nodup) :
    Treads x spec cs P (applyAll s spec opts cs) fun _ => AllStored spec cs true := by
  induction cs generalizing P with
  | nil => exact .pure fun _ _ _ hc => (by cases hc)
  | cons c cs ih =>
    obtain ⟨hc, hcs⟩ := List.forall_mem_cons.1 hcs
    obtain ⟨hnew, hnodup⟩ := List.nodup_cons.1 hnodup
    have hfirst : Treads x spec [c] P (applied c s spec opts)
        fun _ => AllStored spec [c] true := by
      refine (treads_applied hopts (fun h => absurd h hc.1) fun _ _ h => absurd h hc.2).imp
        (fun _ h => h) ?_
      rintro a t' ⟨t, ht, -, happly⟩
      exact allStored_singleton.2 (isSome_of_stored (happly.stored_after hopts ht))
    have hrest (a : Applied) : Treads x spec cs (fun _ => True)
        (applyAll s spec opts cs >>= fun b => Pure.pure (a.changed || b))
        fun _ => AllStored spec cs true :=
      (ih hcs hnodup).bind fun b => .pure fun _ h => h
    refine (hfirst.before hrest fun hu hsteps hstored => ?_).imp (fun _ h => h) ?_
    · exact hstored.steps hsteps hu fun d hd => List.mem_singleton.1 hd ▸ hnew
    · rintro _ t ⟨hcs, hc⟩
      exact hc.append hcs

theorem treads_deleteAll (hcs : ∀ c ∈ cs, c ∉ enforcerComponents) (hnodup : cs.Nodup) :
    Treads x spec cs P (deleteAll kubelet spec cs) fun _ => AllStored spec cs false := by
  induction cs generalizing P with
  | nil => exact .pure fun _ _ _ hc => (by cases hc)
  | cons c cs ih =>
    obtain ⟨hc, hcs⟩ := List.forall_mem_cons.1 hcs
    obtain ⟨hnew, hnodup⟩ := List.nodup_cons.1 hnodup
    have hfirst : Treads x spec [c] P (ofTask (deleteIfExists c kubelet spec))
        fun _ => AllStored spec [c] false := by
      refine (treads_deleteIfExists hc).imp (fun _ h => h) fun _ t habsent => ?_
      exact allStored_singleton.2 (congrArg Option.isSome habsent)
    have hrest (a : Bool) : Treads x spec cs (fun _ => True)
        (deleteAll kubelet spec cs >>= fun b => Pure.pure (a || b))
        fun _ => AllStored spec cs false :=
      (ih hcs hnodup).bind fun b => .pure fun _ h => h
    refine (hfirst.before hrest fun hu hsteps hstored => ?_).imp (fun _ h => h) ?_
    · exact hstored.steps hsteps hu fun d hd => List.mem_singleton.1 hd ▸ hnew
    · rintro _ t ⟨hcs, hc⟩
      exact hc.append hcs

theorem treads_applyIf (wanted : Bool) (hopts : opts.Proper)
    (hcs : ∀ c ∈ cs, (c ≠ .enforcerTls ∧ c ∉ webhooks) ∧ c ∉ enforcerComponents)
    (hnodup : cs.Nodup) :
    Treads x spec cs P (applyIf wanted s spec opts cs) fun _ => AllStored spec cs wanted := by
  unfold applyIf
  cases wanted with
  | true => exact treads_applyAll hopts (fun c hc => (hcs c hc).1) hnodup
  | false => exact treads_deleteAll (fun c hc => (hcs c hc).2) hnodup

theorem treads_applyResolver (hopts : opts.Proper) :
    Treads x spec [.resolverService, .resolver] P (applyResolver s spec opts)
      fun _ => AllStored spec [.resolverService, .resolver]
        spec.components.runtimeProtection.enabled := by
  unfold applyResolver
  dsimp only
  cases spec.components.runtimeProtection.enabled with
  | true =>
    refine treads_nodeCount.bind fun nodes => ?_
    exact treads_applyAll hopts (by decide) (by decide)
  | false => exact treads_deleteAll (by decide) (by decide)

/-! ## The enforcer -/

/-- The step is made under guard: the webhooks go if it fails. -/
theorem treads_orPullWebhooks {p : Pass α} {Q : α → Table → Prop} (hp : Treads x spec cs P p Q) :
    Treads x spec (cs ++ webhooks) P (orPullWebhooks kubelet spec p) Q := by
  refine (hp.mono fun c => List.mem_append_left webhooks).tryCatch fun e => ?_
  have hpull : Treads x spec webhooks (fun _ => True) (deleteAll kubelet spec webhooks)
      fun _ => AllStored spec webhooks false := treads_deleteAll (by decide) (by decide)
  exact (hpull.mono fun c => List.mem_append_right cs).bind fun _ => .throw e

end Pass

theorem caCert_of_ofSecretData {data : Dict Bytes} {tls : TlsMaterial}
    (h : TlsMaterial.ofSecretData data = .ok tls) :
    data.get? TlsMaterial.caCertKey = some tls.caCert := by
  obtain ⟨ca, hca, h⟩ := Except.bind_eq_ok.1 h
  obtain ⟨caKey, -, h⟩ := Except.bind_eq_ok.1 h
  obtain ⟨cert, -, h⟩ := Except.bind_eq_ok.1 h
  obtain ⟨key, -, h⟩ := Except.bind_eq_ok.1 h
  cases h
  unfold TlsMaterial.entry at hca
  cases hget : data.get? TlsMaterial.caCertKey with
  | none =>
    rw [hget] at hca
    cases hca
  | some b =>
    rw [hget] at hca
    cases hca
    rfl

/-- What is known of the enforcer once its steps succeeded. -/
def enforcerKnown (secret service deployment : Object) : List (Component × Object) :=
  [(.enforcer, deployment), (.enforcerService, service), (.enforcerTls, secret)]

theorem Holds.stocked_enforcer {secret service deployment : Object}
    (h : Holds kubelet spec (enforcerKnown secret service deployment) t)
    (hwebhooks : Stocked spec webhooks t) : Stocked spec (enforcerComponents ++ webhooks) t := by
  have hall : AllStored spec enforcerComponents true t := by
    refine h.allStored ?_
    show ∀ c ∈ enforcerComponents, c ∈ [Component.enforcer, .enforcerService, .enforcerTls]
    decide
  have henabled : ∀ c ∈ enforcerComponents, c.enabled spec = true ∧ c ∉ webhooks := by
    intro c hc
    rcases hc with _ | ⟨_, _ | ⟨_, _ | ⟨_, hc⟩⟩⟩
    all_goals first | exact ⟨rfl, by decide⟩ | cases hc
  exact (hall.stocked henabled).append hwebhooks

/-- An enforcer all of whose objects are known is hosted, with the authority that
is in its secret. -/
theorem Holds.hosted {secret service deployment : Object} {stored : Secret} {tls : TlsMaterial}
    (h : Holds kubelet spec (enforcerKnown secret service deployment) t)
    (hsecret : secret.asSecret = .ok stored)
    (htls : TlsMaterial.ofSecretData (stored.data.getD ∅) = .ok tls) :
    Hosted t spec.namespace tls.caCert := by
  have hservice := isSome_of_stored (h (.enforcerService, service) (by simp [enforcerKnown]))
  have hdeployment := isSome_of_stored (h (.enforcer, deployment) (by simp [enforcerKnown]))
  have hcertificate := h (.enforcerTls, secret) (by simp [enforcerKnown])
  obtain ⟨j, hj, hread⟩ := Table.get?_of_read_eq_some hcertificate
  obtain ⟨stored', hdecode, rfl⟩ := Except.map_eq_ok.1 hread
  cases hsecret
  exact ⟨hservice, hdeployment, j, stored, hj, Kube.orUnreadable_eq_ok.1 hdecode,
    caCert_of_ofSecretData htls⟩

/-- Whether the enforcer is ready can be told from the deployment that is known. -/
theorem Holds.enforcerReady_iff {secret service deployment : Object} {ready : Int32}
    (h : Holds kubelet spec (enforcerKnown secret service deployment) t)
    (hready : readyReplicas deployment = .ok ready) : EnforcerReady spec t ↔ ¬ ready < 1 := by
  have hdeployment := h (.enforcer, deployment) (List.mem_cons_self ..)
  obtain ⟨j, hj, hread⟩ := Table.get?_of_read_eq_some hdeployment
  obtain ⟨d, hdecode, rfl⟩ := Except.map_eq_ok.1 hread
  replace hdecode := Kube.orUnreadable_eq_ok.1 hdecode
  cases hready
  rw [Int32.not_lt]
  constructor
  · rintro ⟨j', d', hj', hd', hle⟩
    cases hj.symm.trans hj'
    cases hdecode.symm.trans hd'
    exact hle
  · intro hle
    exact ⟨j, d, hj, hdecode, hle⟩

theorem Holds.beside_webhooks {secret service deployment : Object}
    (h : Holds kubelet spec (enforcerKnown secret service deployment) t)
    (hsteps : Steps spec webhooks t t') (ht : Placed t) :
    Holds kubelet spec (enforcerKnown secret service deployment) t' :=
  h.steps hsteps ht (by simp [enforcerKnown, webhooks])

/-! ## Webhooks -/

/-- What is stored of a webhook can be read, and all its entries are anchored in the
namespace of the spec. -/
def Component.Secured (c : Component) (kubelet : String) (spec : Agent.Spec) (t : Table) : Prop :=
  ∃ found, c.stored kubelet spec t = .ok found ∧
    ∀ o, found = some o → ∀ w ∈ o.entries, Anchored t spec.namespace w

/-- The enforcer is stored, the webhooks as far as they are due, and these are
secured. -/
structure EnforcerInPlace (kubelet : String) (spec : Agent.Spec) (t : Table) : Prop where
  stocked : Stocked spec (enforcerComponents ++ webhooks) t
  secured : ∀ c ∈ webhooks, c.Secured kubelet spec t

theorem secured_of_absent (h : t.get? (c.place spec) = none) : c.Secured kubelet spec t := by
  refine ⟨none, ?_, fun o ho => (by cases ho)⟩
  refine Table.read_of_none ?_
  rw [emptyObject_kind]
  exact h

theorem Component.Secured.steps (h : c.Secured kubelet spec t) (hsteps : Steps spec cs t t')
    (ht : Placed t) (hc : c ∉ cs) : c.Secured kubelet spec t' := by
  obtain ⟨found, hfound, hanchored⟩ := h
  refine ⟨found, ?_, ?_⟩
  · rw [stored_congr (hsteps.get?_place ht hc)]
    exact hfound
  · intro o ho w hw
    obtain ⟨ca, hleads, hosted⟩ := hanchored o ho w hw
    exact ⟨ca, hleads, hosted.steps hsteps ht⟩

/-- Whether a webhook is stored is as told, and what is stored of it is secured. -/
structure Component.Registered (c : Component) (kubelet : String) (spec : Agent.Spec)
    (stored : Bool) (t : Table) : Prop where
  stored : (t.get? (c.place spec)).isSome = stored
  secured : c.Secured kubelet spec t

theorem registered_of_absent (h : (t.get? (c.place spec)).isSome = false) :
    c.Registered kubelet spec false t := by
  refine ⟨h, secured_of_absent ?_⟩
  exact Option.isNone_iff_eq_none.1 (Option.isSome_eq_false_iff.1 h)

theorem Component.Registered.steps {b : Bool} (h : c.Registered kubelet spec b t)
    (hsteps : Steps spec cs t t') (ht : Placed t) (hc : c ∉ cs) :
    c.Registered kubelet spec b t' := by
  refine ⟨?_, h.secured.steps hsteps ht hc⟩
  rw [hsteps.get?_place ht hc]
  exact h.stored

/-- A webhook that was brought to the spec leads to the enforcer. -/
theorem Applying.leads {a : Applied} (h : Applying x c s spec opts t (.ok a) t')
    (hopts : opts.Proper) (hfresh : opts.createOnly = false) (hc : c ∈ webhooks)
    {tls : TlsMaterial} (htls : s.tls = some tls) :
    ∀ w ∈ a.object.entries, Leads spec.namespace tls.caCert w := by
  cases h with
  | kept hread honly => cases hfresh.symm.trans honly
  | same hread honly hwanted => exact leads_of_wanted hc htls hopts hwanted
  | written hread hwanted => exact leads_of_wanted hc htls hopts hwanted

namespace Pass

theorem treads_webhook (hopts : opts.Proper) (hfresh : opts.createOnly = false) (hc : c ∈ webhooks)
    {tls : TlsMaterial} (htls : s.tls = some tls) :
    Treads x spec [c] (fun t => Hosted t spec.namespace tls.caCert) (applied c s spec opts)
      fun _ t => Hosted t spec.namespace tls.caCert ∧ c.Registered s.kubelet spec true t := by
  have hne : c ≠ .enforcerTls := by
    rintro rfl
    exact absurd hc (by decide)
  refine (treads_applied hopts (fun h => absurd h hne) fun t hosted _ => ⟨tls, htls, hosted⟩).imp
    (fun _ h => h) ?_
  rintro a t' ⟨t, ht, hosted, happly⟩
  have hstep : Step spec [c] t t' := .apply (List.mem_singleton_self c) happly hopts
    (fun h => absurd h hne) fun _ => ⟨tls, htls, hosted⟩
  have hosted' := hosted.step hstep ht
  have hstored := happly.stored_after hopts ht
  refine ⟨hosted', isSome_of_stored hstored, some a.object, hstored, ?_⟩
  rintro o ho w hw
  cases ho
  exact ⟨tls.caCert, happly.leads hopts hfresh hc htls w hw, hosted'⟩

theorem treads_deleteWebhook (hc : c ∈ webhooks) :
    Treads x spec [c] P (deleteAll kubelet spec [c]) fun _ => c.Registered kubelet spec false := by
  have hcs : ∀ d ∈ [c], d ∉ enforcerComponents := by
    intro d hd
    rcases List.mem_pair.1 (List.mem_singleton.1 hd ▸ hc) with rfl | rfl <;> decide
  refine (treads_deleteAll hcs (by simp)).imp (fun _ h => h) fun _ t hgone => ?_
  exact registered_of_absent (allStored_singleton.1 hgone)

/-- What is done about the mutating webhook is done beside the validating one. -/
theorem treads_mutatingWebhook {p : Pass Bool} {b : Bool} {ca : Bytes}
    (hp : Treads x spec [.mutatingWebhook] (fun t => Hosted t spec.namespace ca) p
      fun _ => Component.mutatingWebhook.Registered kubelet spec b)
    (hb : Component.mutatingWebhook.enabled spec = b) (f : Bool → Bool) :
    Treads x spec webhooks (fun t => Hosted t spec.namespace ca ∧
        Component.validatingWebhook.Registered kubelet spec true t)
      (p >>= fun mutating => Pure.pure (f mutating))
      fun _ t => ∀ c ∈ webhooks, c.Registered kubelet spec (c.enabled spec) t := by
  have hmember : ∀ c ∈ [Component.mutatingWebhook], c ∈ webhooks := by decide
  refine ((hp.frame fun hu hsteps hvalidating => hvalidating.steps hsteps hu (by decide)).mono
    hmember).bind fun mutating => .pure ?_
  rintro t ⟨hmutating, hvalidating⟩ c hc
  rcases List.mem_pair.1 hc with rfl | rfl
  · exact hvalidating
  · rw [hb]
    exact hmutating

/-- While the enforcer is hosted, the validating webhook is registered, and the
mutating one as far as it is asked for. -/
theorem treads_applyWebhooks (hopts : opts.Proper) (hfresh : opts.createOnly = false)
    (stored : Dict Bytes) :
    Treads x spec webhooks (fun t => ∀ tls, TlsMaterial.ofSecretData stored = .ok tls →
        Hosted t spec.namespace tls.caCert) (applyWebhooks s spec opts stored)
      fun _ t => ∀ c ∈ webhooks, c.Registered s.kubelet spec (c.enabled spec) t := by
  unfold applyWebhooks
  refine (treads_ofExcept _).bind fun tls => .of_known fun htls => ?_
  dsimp only
  have hvalidating : Treads x spec [.validatingWebhook]
      (fun t => Hosted t spec.namespace tls.caCert)
      (applied .validatingWebhook { s with tls := some tls } spec opts)
      fun _ t => Hosted t spec.namespace tls.caCert ∧
        Component.validatingWebhook.Registered s.kubelet spec true t :=
    treads_webhook hopts hfresh (by decide) rfl
  refine ((hvalidating.imp (fun t h => h tls htls) fun _ _ h => h).mono
    (by decide)).bind fun validating => ?_
  split
  · rename_i henabled
    refine treads_mutatingWebhook ?_ henabled _
    rw [map_eq_pure_bind]
    have happly : Treads x spec [.mutatingWebhook] (fun t => Hosted t spec.namespace tls.caCert)
        (applied .mutatingWebhook { s with tls := some tls } spec opts)
        fun _ t => Hosted t spec.namespace tls.caCert ∧
          Component.mutatingWebhook.Registered s.kubelet spec true t :=
      treads_webhook hopts hfresh (by decide) rfl
    exact happly.bind fun mutating => .pure fun t h => h.2
  · rename_i hdisabled
    exact treads_mutatingWebhook (treads_deleteWebhook (by decide)) (Bool.eq_false_iff.2 hdisabled) _

/-- Of an enforcer that is known and has no replica that is ready, the webhooks are
taken away. -/
theorem treads_pullWebhooks {secret service deployment : Object} {ready : Int32}
    (hready : readyReplicas deployment = .ok ready) (hfew : ready < 1) :
    Treads x spec webhooks (Holds kubelet spec (enforcerKnown secret service deployment))
      (deleteAll kubelet spec webhooks) fun _ => EnforcerInPlace kubelet spec := by
  have hgone : Treads x spec webhooks (fun _ => True) (deleteAll kubelet spec webhooks)
    fun _ => AllStored spec webhooks false := treads_deleteAll (by decide) (by decide)
  refine (hgone.frame fun hu hsteps hknown => hknown.beside_webhooks hsteps hu).imp
    (fun t h => ⟨trivial, h⟩) ?_
  rintro _ t ⟨hgone, hknown⟩
  refine ⟨hknown.stocked_enforcer fun c hc => ?_,
    fun c hc => (registered_of_absent (hgone c hc)).secured⟩
  rw [hgone c hc]
  refine ⟨fun h => (by cases h), fun h => ?_⟩
  exact absurd hfew ((hknown.enforcerReady_iff hready).1 (h.2 hc))

/-- To an enforcer that is known and has a replica that is ready, the webhooks are
made to lead. -/
theorem treads_leadWebhooks {secret service deployment : Object} {stored : Secret} {ready : Int32}
    (hopts : opts.Proper) (hfresh : opts.createOnly = false) (hsecret : secret.asSecret = .ok stored)
    (hready : readyReplicas deployment = .ok ready) (hmany : ¬ ready < 1) :
    Treads x spec webhooks (Holds s.kubelet spec (enforcerKnown secret service deployment))
      (applyWebhooks s spec opts (stored.data.getD ∅)) fun _ => EnforcerInPlace s.kubelet spec := by
  refine ((treads_applyWebhooks hopts hfresh (stored.data.getD ∅)).frame
    fun hu hsteps hknown => hknown.beside_webhooks hsteps hu).imp
    (fun t hknown => ⟨fun tls htls => hknown.hosted hsecret htls, hknown⟩) ?_
  rintro _ t ⟨hwebhooks, hknown⟩
  refine ⟨hknown.stocked_enforcer fun c hc => ?_, fun c hc => (hwebhooks c hc).secured⟩
  rw [(hwebhooks c hc).stored]
  exact ⟨fun h => ⟨h, fun _ => (hknown.enforcerReady_iff hready).2 hmany⟩, fun h => h.1⟩

/-- A step of the enforcer is known once it succeeded, and pulls the webhooks if it
fails. -/
theorem treads_enforcerStep {known : List (Component × Object)} (hopts : opts.Proper)
    (honly : c = .enforcerTls → opts.createOnly = true) (hc : c ∈ enforcerComponents)
    (hnew : ∀ e ∈ known, e.1 ≠ c) :
    Treads x spec (enforcerComponents ++ webhooks) (Holds s.kubelet spec known)
      (orPullWebhooks s.kubelet spec (applied c s spec opts))
      fun a => Holds s.kubelet spec ((c, a.object) :: known) := by
  have hother : ∀ c ∈ enforcerComponents, c ∉ webhooks := by decide
  refine (treads_orPullWebhooks (treads_applied_holds hopts honly (hother c hc) hnew)).mono
    fun d hd => ?_
  rcases List.mem_append.1 hd with hd | hd
  · exact List.mem_append_left _ (List.mem_singleton.1 hd ▸ hc)
  · exact List.mem_append_right _ hd

/-- The enforcer is stored, and the webhooks if it is ready. -/
theorem treads_applyEnforcer (hopts : opts.Proper) (hfresh : opts.createOnly = false) :
    Treads x spec (enforcerComponents ++ webhooks) P (applyEnforcer s spec opts)
      fun _ => EnforcerInPlace s.kubelet spec := by
  have hright : ∀ c ∈ webhooks, c ∈ enforcerComponents ++ webhooks :=
    fun c => List.mem_append_right enforcerComponents
  unfold applyEnforcer
  dsimp only
  have hsecret : Treads x spec (enforcerComponents ++ webhooks) (Holds s.kubelet spec [])
      (orPullWebhooks s.kubelet spec (applied .enforcerTls s spec { opts with createOnly := true }))
      fun a => Holds s.kubelet spec [(.enforcerTls, a.object)] :=
    treads_enforcerStep hopts (fun _ => rfl) (by decide) (by simp)
  refine (hsecret.imp (fun _ _ _ he => by cases he) fun _ _ h => h).bind fun secret => ?_
  refine (treads_ofExcept _).bind fun stored => .of_known fun hstored => ?_
  refine (treads_enforcerStep hopts (fun h => by cases h) (by decide) (by simp)).bind
    fun service => ?_
  refine (treads_enforcerStep hopts (fun h => by cases h) (by decide) (by simp)).bind
    fun deployment => ?_
  refine (treads_ofExcept _).bind fun ready => .of_known fun hready => ?_
  split
  · rename_i hfew
    exact ((treads_pullWebhooks hready hfew).mono hright).bind fun changed => .pure fun _ h => h
  · rename_i hmany
    exact ((treads_leadWebhooks hopts hfresh hstored hready hmany).mono hright).bind
      fun changed => .pure fun _ h => h

/-! ## The whole dataplane -/

/-- Components that come after the enforcer. -/
def laterComponents : List Component :=
  [.stateReporter] ++ ([.resolverService, .resolver] ++
    ([.imageScanningReporterService, .imageScanningReporter] ++ [.nodeAgent]))

/-- What a pass does after the enforcer. -/
def applyLater (s : Surroundings) (spec : Agent.Spec) (opts : ApplyOptions) (changed : Bool) :
    Pass Bool := do
  let stateReporter ← applyAll s spec opts [.stateReporter]
  let resolver ← applyResolver s spec opts
  let runtime := spec.components.runtimeProtection.enabled
  let scanning := spec.components.clusterScanning.enabled
  let reporter ←
    applyIf scanning s spec opts [.imageScanningReporterService, .imageScanningReporter]
  let nodeAgent ← applyIf (runtime || scanning) s spec opts [.nodeAgent]
  return changed || stateReporter || resolver || reporter || nodeAgent

/-- What a pass does once the kubelet version is known. -/
def applyKnown (kubelet : String) (spec : Agent.Spec) (registry : RegistryCredentials)
    (setOwner : Option OwnerSetter) : Pass Bool := do
  let core ← applyAll { kubelet, registry := some registry } spec { setOwner } coreComponents
  let enforcer ← applyEnforcer { kubelet, registry := some registry } spec { setOwner }
  applyLater { kubelet, registry := some registry } spec { setOwner } (core || enforcer)

theorem applyDesiredState_eq (spec : Agent.Spec) (registry : RegistryCredentials)
    (setOwner : Option OwnerSetter) :
    applyDesiredState spec registry setOwner
      = kubeletVersion >>= fun kubelet => applyKnown kubelet spec registry setOwner := rfl

theorem treads_stocked {p : Pass α} {b : Bool}
    (hp : Treads x spec cs P p fun _ => AllStored spec cs b)
    (hcs : ∀ c ∈ cs, c.enabled spec = b ∧ c ∉ webhooks) :
    Treads x spec cs P p fun _ => Stocked spec cs :=
  hp.imp (fun _ h => h) fun _ _ h => h.stocked hcs

theorem treads_applyLater (hopts : opts.Proper) (changed : Bool) :
    Treads x spec laterComponents P (applyLater s spec opts changed)
      fun _ => Stocked spec laterComponents := by
  have hone {c : Component} {b : Bool} (hb : c.enabled spec = b) (hc : c ∉ webhooks) :
      ∀ d ∈ [c], d.enabled spec = b ∧ d ∉ webhooks := by
    intro d hd
    cases List.mem_singleton.1 hd
    exact ⟨hb, hc⟩
  have htwo {c d : Component} {b : Bool} (hb : c.enabled spec = b ∧ d.enabled spec = b)
      (hc : c ∉ webhooks ∧ d ∉ webhooks) :
      ∀ e ∈ [c, d], e.enabled spec = b ∧ e ∉ webhooks := by
    intro e he
    rcases List.mem_pair.1 he with rfl | rfl
    · exact ⟨hb.1, hc.1⟩
    · exact ⟨hb.2, hc.2⟩
  unfold applyLater laterComponents
  dsimp only
  have hstateReporter : Treads x spec [.stateReporter] P (applyAll s spec opts [.stateReporter])
      fun _ => Stocked spec [.stateReporter] :=
    treads_stocked (treads_applyAll hopts (by decide) (by decide)) (hone rfl (by decide))
  have hresolver : Treads x spec [.resolverService, .resolver] (fun _ => True)
      (applyResolver s spec opts) fun _ => Stocked spec [.resolverService, .resolver] :=
    treads_stocked (treads_applyResolver hopts) (htwo ⟨rfl, rfl⟩ (by decide))
  have hreporter : Treads x spec [.imageScanningReporterService, .imageScanningReporter]
      (fun _ => True) (applyIf spec.components.clusterScanning.enabled s spec opts
        [.imageScanningReporterService, .imageScanningReporter])
      fun _ => Stocked spec [.imageScanningReporterService, .imageScanningReporter] :=
    treads_stocked (treads_applyIf _ hopts (by decide) (by decide)) (htwo ⟨rfl, rfl⟩ (by decide))
  have hnodeAgent (changed : Bool) : Treads x spec [.nodeAgent] (fun _ => True)
      (applyIf (spec.components.runtimeProtection.enabled || spec.components.clusterScanning.enabled)
        s spec opts [.nodeAgent] >>= fun nodeAgent => Pure.pure (changed || nodeAgent))
      fun _ => Stocked spec [.nodeAgent] :=
    (treads_stocked (treads_applyIf _ hopts (by decide) (by decide))
      (hone rfl (by decide))).bind fun nodeAgent => .pure fun _ h => h
  refine Treads.imp (hstateReporter.before (fun stateReporter => hresolver.before (fun resolver =>
    hreporter.before (fun reporter => hnodeAgent _) ?_) ?_) ?_) (fun _ h => h) ?_
  · exact fun hu hsteps h => h.steps hsteps hu (by decide) (.inl (by decide))
  · exact fun hu hsteps h => h.steps hsteps hu (by decide) (.inl (by decide))
  · exact fun hu hsteps h => h.steps hsteps hu (by decide) (.inl (by decide))
  · rintro _ t ⟨⟨⟨hnodeAgent, hreporter⟩, hresolver⟩, hstateReporter⟩
    exact hstateReporter.append (hresolver.append (hreporter.append hnodeAgent))

/-- A pass treads by steps, and when it succeeds, what is due is stored, and no more,
and the webhooks are anchored. -/
theorem treads_applyKnown {registry : RegistryCredentials} {setOwner : Option OwnerSetter}
    (hopts : ApplyOptions.Proper { setOwner }) :
    Treads x spec Component.all P (applyKnown kubelet spec registry setOwner) fun _ t =>
      (∀ c : Component, (t.get? (c.place spec)).isSome = true ↔ c.Due spec t) ∧
        ∀ c ∈ webhooks, c.Secured kubelet spec t := by
  have hcore : Treads x spec coreComponents P
      (applyAll { kubelet, registry := some registry } spec { setOwner } coreComponents)
      fun _ => Stocked spec coreComponents := by
    refine treads_stocked (b := true) (treads_applyAll hopts (by decide) (by decide)) ?_
    intro c hc
    rcases hc with _ | ⟨_, _ | ⟨_, _ | ⟨_, _ | ⟨_, hc⟩⟩⟩⟩
    all_goals first | exact ⟨rfl, by decide⟩ | cases hc
  have hrest (core : Bool) : Treads x spec ((enforcerComponents ++ webhooks) ++ laterComponents)
      (fun _ => True) (do
        let enforcer ← applyEnforcer { kubelet, registry := some registry } spec { setOwner }
        applyLater { kubelet, registry := some registry } spec { setOwner } (core || enforcer))
      fun _ t => Stocked spec laterComponents t ∧ EnforcerInPlace kubelet spec t := by
    refine (treads_applyEnforcer hopts rfl).before (fun enforcer => treads_applyLater hopts _) ?_
    rintro u v hu hsteps ⟨hstocked, hsecured⟩
    refine ⟨hstocked.steps hsteps hu (by decide) (.inr (by decide)), fun c hc => ?_⟩
    refine (hsecured c hc).steps hsteps hu ?_
    rcases List.mem_pair.1 hc with rfl | rfl <;> decide
  unfold applyKnown
  have hmember : ∀ c ∈ coreComponents ++ ((enforcerComponents ++ webhooks) ++ laterComponents),
      c ∈ Component.all := by decide
  refine Treads.mono ?_ hmember
  refine (hcore.before hrest fun hu hsteps h =>
    h.steps hsteps hu (by decide) (.inl (by decide))).imp (fun _ h => h) ?_
  rintro _ t ⟨⟨hlater, henforcer, hsecured⟩, hcore⟩
  refine ⟨fun c => ?_, hsecured⟩
  have hall := hcore.append (henforcer.append hlater)
  exact hall c (by cases c <;> decide)

theorem treads_applyDesiredState {registry : RegistryCredentials} {setOwner : Option OwnerSetter}
    (hopts : ApplyOptions.Proper { setOwner }) :
    Treads x spec Component.all P (applyDesiredState spec registry setOwner) fun _ t =>
      ∀ c : Component, (t.get? (c.place spec)).isSome = true ↔ c.Due spec t := by
  rw [applyDesiredState_eq]
  refine treads_kubeletVersion.bind fun kubelet => ?_
  exact (treads_applyKnown hopts).imp (fun _ h => h) fun _ _ h => h.1

theorem treads_deleteClusterScoped :
    Treads x spec Component.all P (deleteClusterScoped spec) fun _ _ => True := by
  unfold deleteClusterScoped
  refine treads_kubeletVersion.bind fun kubelet => ?_
  refine Treads.imp (Treads.mono (treads_deleteAll ?_ ?_) ?_) (fun _ h => h) fun _ _ _ => trivial
  · decide
  · decide
  · decide

end Pass

variable {m m' : Memory} {w w' : Scene} {changed : Bool} {registry : RegistryCredentials}
  {setOwner : Option OwnerSetter}

/-- **The inventory after a pass.** When a pass over a placed store succeeds, the
components that are due are stored, each under its key, the others are not, and
every other object is as it was. -/
theorem applyDesiredState_inventory (hopts : ApplyOptions.Proper { setOwner })
    (hw : Placed w.store)
    (hrun : runIn x (applyDesiredState spec registry setOwner) m w = ((.ok changed, m'), w')) :
    (∀ c : Component,
      (w'.store.get? (c.place spec)).isSome = true ↔ c.Due spec w'.store) ∧
      ∀ p : Place, (∀ c : Component, p ≠ c.place spec) → w'.store.get? p = w.store.get? p := by
  have htreads : Treads x spec Component.all (fun _ => True)
      (applyDesiredState spec registry setOwner)
      fun _ t => ∀ c : Component, (t.get? (c.place spec)).isSome = true ↔ c.Due spec t :=
    treads_applyDesiredState hopts
  obtain ⟨hsteps, hdue⟩ := htreads.after hw trivial hrun
  refine ⟨hdue changed rfl, fun p hp => ?_⟩
  exact hsteps.get?_of_ne hw fun c _ => hp c

set_option maxRecDepth 10000 in
/-- A first pass, over a store that holds nothing but blank webhooks. -/
theorem inventory_blankWebhooks :
    ∃ changed m' w', runIn .steady (applyDesiredState default ⟨"", ∅⟩ none) {}
        ⟨blankWebhooks "v1.20.0" default, []⟩ = ((.ok changed, m'), w') ∧
      (∀ c : Component,
        (w'.store.get? (c.place default)).isSome = true ↔ c.Due default w'.store) ∧
      ∀ p : Place, (∀ c : Component, p ≠ c.place default) →
        w'.store.get? p = (blankWebhooks "v1.20.0" default).get? p := by
  have hok : (runIn .steady (applyDesiredState default ⟨"", ∅⟩ none) {}
      ⟨blankWebhooks "v1.20.0" default, []⟩).1.1.toBool = true := by
    decide +kernel
  rcases hrun : runIn .steady (applyDesiredState default ⟨"", ∅⟩ none) {}
    ⟨blankWebhooks "v1.20.0" default, []⟩ with ⟨⟨_ | changed, m'⟩, w'⟩
  · rw [hrun] at hok
    cases hok
  · refine ⟨changed, m', w', rfl, ?_⟩
    exact applyDesiredState_inventory (fun _ h => by cases h) orderly_blankWebhooks.placed hrun

end AgentOperator.Dataplane
