import AgentOperator.Proofs.Frames
import AgentOperator.Proofs.Orderly

/-!
AgentOperator.Proofs.Withdrawal — webhooks that are taken away when the enforcer
cannot be trusted to answer.

A pass comes to the enforcer by `untilEnforcer`, and the enforcer is brought to
the spec by `enforcerSteps`. Unless these leave it `Answering`, what follows is
the deletion of the validating webhook and then that of the mutating one
(`runIn_applyEnforcer_of_exit`), whichever step failed. A deletion goes through
if its own calls do and what is stored is `Legible`; nothing before or after
touches webhooks.

The deletions stand one after the other. That of the mutating webhook is not
come to where the one before it fails, and `mutatingWebhook_absent_iff` says
exactly when it happens.
-/

namespace AgentOperator.Dataplane

open Kube (Kind Object ObjectKey)
open Pass
open Store (Call Place Table placeOf)

variable {α : Type} {x : Setting} {c : Component} {kubelet : String} {s : Surroundings}
  {spec : Agent.Spec} {opts : ApplyOptions} {m m' : Memory} {w w' : Scene} {t : Table}

/-! ## Deleting one component -/

/-- What is stored of a component can be read, and is under its own key. -/
def Component.Legible (c : Component) (kubelet : String) (spec : Agent.Spec) (t : Table) : Prop :=
  ∀ j, t.get? (c.place spec) = some j →
    ∃ o, (c.emptyObject kubelet).decodeLike j = .ok o ∧ placeOf o = c.place spec

theorem Component.Legible.of_same {u : Table} (h : c.Legible kubelet spec t)
    (hsame : u.get? (c.place spec) = t.get? (c.place spec)) : c.Legible kubelet spec u := by
  intro j hj
  exact h j (hsame ▸ hj)

/-- An orderly store is legible, but for what others wrote into deployments. -/
theorem Orderly.legible (ht : Orderly kubelet t) (hc : c.kind ≠ .deployment) :
    c.Legible kubelet spec t := by
  intro j hj
  cases ht _ j hj with
  | @written o hheld =>
    have hread := Object.decodeLike_encode hheld.known
    rw [show o.kind = c.kind from congrArg Place.kind hheld.place] at hread
    exact ⟨o, hread, hheld.place⟩
  | edited hheld => exact absurd (congrArg Place.kind hheld.place).symm hc

theorem Deleting.get?_of_not_legible {t' : Table} {r : Except Error Bool}
    (h : Deleting c kubelet spec t r t') (hlegible : ¬ c.Legible kubelet spec t) :
    t'.get? (c.place spec) = t.get? (c.place spec) := by
  cases h with
  | @deleted o hread =>
    obtain ⟨j, hj, hdecode⟩ := Table.get?_of_read_eq_some hread
    rw [emptyObject_kind] at hj
    have hkey : placeOf o ≠ c.place spec := by
      intro hkey
      refine hlegible fun i hi => ?_
      cases hj.symm.trans hi
      exact ⟨o, hdecode, hkey⟩
    rw [Table.get?_erase, if_neg hkey]
  | _ => rfl

/-- A component that is legible can be deleted as long as no call on it fails. -/
theorem deleteIfExists_of_legible {r : Except Error Bool}
    (h : Task.runIn x (deleteIfExists c kubelet spec) w = (r, w'))
    (hspared : Spared (c.place spec) w'.calls) (hlegible : c.Legible kubelet spec w.store) :
    (∃ b, r = .ok b) ∧ w'.store.get? (c.place spec) = none := by
  have hplace : (⟨(c.emptyObject kubelet).kind, c.key spec⟩ : Place) = c.place spec := by
    rw [emptyObject_kind, Component.place]
  unfold deleteIfExists at h
  rcases Task.runIn_bind_eq.1 h with ⟨e, hget, rfl⟩ | ⟨found, w₁, hget, hnext⟩
  · obtain ⟨hread, -⟩ := Setting.get_of_spared hget (by rwa [hplace])
    cases hstored : w.store.get? (c.place spec) with
    | none =>
      rw [Table.read_of_none (by rwa [hplace])] at hread
      cases hread
    | some j =>
      obtain ⟨o, ho, -⟩ := hlegible j hstored
      rw [Table.read_of_some (by rwa [hplace]), ho] at hread
      cases hread
  · have hlog := Task.calls_isPrefix hnext
    obtain ⟨hread, hstore⟩ :=
      Setting.get_of_spared hget (by rw [hplace]; exact hspared.of_isPrefix hlog)
    cases found with
    | none =>
      have hnone := Table.get?_of_read_eq_none hread.symm
      rw [hplace, ← hstore] at hnone
      cases hnext
      exact ⟨⟨false, rfl⟩, hnone⟩
    | some o =>
      obtain ⟨j, hj, hdecode⟩ := Table.get?_of_read_eq_some hread.symm
      rw [hplace] at hj
      obtain ⟨o', ho', hkey⟩ := hlegible j hj
      cases hdecode.symm.trans ho'
      rcases Task.runIn_bind_eq.1 hnext with ⟨e, hdelete, rfl⟩ | ⟨_, w₂, hdelete, hdone⟩
      · obtain ⟨hok, -⟩ := Setting.delete_of_spared hdelete (by rwa [hkey])
        cases hok
      · cases hdone
        obtain ⟨-, herased⟩ := Setting.delete_of_spared hdelete (by rwa [hkey])
        exact ⟨⟨true, rfl⟩, by rw [herased, Table.get?_erase, if_pos hkey]⟩

/-- What is gone after a deletion that no call failed in is what was legible. -/
theorem deleteIfExists_absent_iff {r : Except Error Bool}
    (h : Task.runIn x (deleteIfExists c kubelet spec) w = (r, w'))
    (hspared : Spared (c.place spec) w'.calls) :
    w'.store.get? (c.place spec) = none ↔ c.Legible kubelet spec w.store := by
  constructor
  · intro habsent
    by_contra hlegible
    rw [(deleting_of_runIn h).get?_of_not_legible hlegible] at habsent
    refine hlegible fun j hj => ?_
    cases habsent.symm.trans hj
  · intro hlegible
    exact (deleteIfExists_of_legible h hspared hlegible).2

/-! ## The enforcer -/

/-- What the steps of the enforcer answered. -/
structure EnforcerObjects where
  secret : Applied
  service : Applied
  deployment : Applied

/-- The steps of the enforcer on their own. -/
def enforcerSteps (s : Surroundings) (spec : Agent.Spec) (opts : ApplyOptions) :
    Pass EnforcerObjects := do
  let secret ← applied .enforcerTls s spec { opts with createOnly := true }
  let service ← applied .enforcerService s spec opts
  let deployment ← applied .enforcer s spec opts
  return { secret, service, deployment }

/-- Whether every step succeeded and left a deployment with a replica that is
ready. -/
def Answering (steps : Except Error EnforcerObjects) : Prop :=
  ∃ objects ready, steps = .ok objects ∧
    readyReplicas objects.deployment.object = .ok ready ∧ ¬ ready < 1

/-- What is done about the webhooks after the steps. -/
def enforcerWebhooks (s : Surroundings) (spec : Agent.Spec) (opts : ApplyOptions)
    (objects : EnforcerObjects) : Pass Bool := do
  let stored ← ofTask (Task.ofExcept objects.secret.object.asSecret)
  let ready ← ofTask (Task.ofExcept (readyReplicas objects.deployment.object))
  let changed ←
    if ready < 1 then deleteAll s.kubelet spec webhooks
    else applyWebhooks s spec opts (stored.data.getD ∅)
  return objects.secret.changed || objects.service.changed || objects.deployment.changed || changed

theorem asSecret_of_applied {a : Applied}
    (h : runIn x (applied c s spec opts) m w = ((.ok a, m'), w')) (hc : c.kind = .secret) :
    ∃ secret, a.object.asSecret = .ok secret := by
  have hkind := (applying_of_applied h).2.kind.trans hc
  cases ha : a.object <;> rw [ha] at hkind <;> cases hkind
  exact ⟨_, rfl⟩

theorem readyReplicas_of_applied {a : Applied}
    (h : runIn x (applied c s spec opts) m w = ((.ok a, m'), w')) (hc : c.kind = .deployment) :
    ∃ ready, readyReplicas a.object = .ok ready := by
  have hkind := (applying_of_applied h).2.kind.trans hc
  cases ha : a.object <;> rw [ha] at hkind <;> cases hkind
  exact ⟨_, rfl⟩

/-- The enforcer is its steps, after whichever of which a failure pulls the
webhooks, and then the webhooks. -/
theorem runIn_applyEnforcer (x : Setting) (s : Surroundings) (spec : Agent.Spec)
    (opts : ApplyOptions) (m : Memory) (w : Scene) :
    runIn x (applyEnforcer s spec opts) m w =
      match runIn x (enforcerSteps s spec opts) m w with
      | ((.error e, m₁), w₁) =>
        runIn x (deleteAll s.kubelet spec webhooks >>= fun _ => throw e) m₁ w₁
      | ((.ok objects, m₁), w₁) => runIn x (enforcerWebhooks s spec opts objects) m₁ w₁ := by
  unfold applyEnforcer enforcerSteps orPullWebhooks
  dsimp only
  simp only [runIn_bind, runIn_tryCatch]
  rcases hsecret : runIn x (applied .enforcerTls s spec { opts with createOnly := true }) m w
    with ⟨⟨_ | secret, m₁⟩, w₁⟩
  · dsimp only
    rcases runIn x (deleteAll s.kubelet spec webhooks) m₁ w₁ with ⟨⟨_ | b, m₂⟩, w₂⟩ <;> rfl
  obtain ⟨stored, hstored⟩ := asSecret_of_applied hsecret rfl
  dsimp only
  rw [hstored]
  simp only [runIn_ofTask, Task.runIn_ofExcept]
  rcases hservice : runIn x (applied .enforcerService s spec opts) m₁ w₁
    with ⟨⟨_ | service, m₂⟩, w₂⟩
  · dsimp only
    rcases runIn x (deleteAll s.kubelet spec webhooks) m₂ w₂ with ⟨⟨_ | b, m₃⟩, w₃⟩ <;> rfl
  dsimp only
  rcases hdeployment : runIn x (applied .enforcer s spec opts) m₂ w₂
    with ⟨⟨_ | deployment, m₃⟩, w₃⟩
  · dsimp only
    rcases runIn x (deleteAll s.kubelet spec webhooks) m₃ w₃ with ⟨⟨_ | b, m₄⟩, w₄⟩ <;> rfl
  simp only [runIn_pure, enforcerWebhooks, runIn_bind, runIn_ofTask, Task.runIn_ofExcept, hstored]

/-- Steps that succeeded leave a secret and a deployment that can be looked into. -/
theorem enforcerSteps_objects {objects : EnforcerObjects}
    (h : runIn x (enforcerSteps s spec opts) m w = ((.ok objects, m'), w')) :
    (∃ secret, objects.secret.object.asSecret = .ok secret) ∧
      ∃ ready, readyReplicas objects.deployment.object = .ok ready := by
  unfold enforcerSteps at h
  obtain ⟨secret, m₁, w₁, hsecret, h⟩ := runIn_bind_eq_ok.1 h
  obtain ⟨service, m₂, w₂, -, h⟩ := runIn_bind_eq_ok.1 h
  obtain ⟨deployment, m₃, w₃, hdeployment, h⟩ := runIn_bind_eq_ok.1 h
  cases h
  exact ⟨asSecret_of_applied hsecret rfl, readyReplicas_of_applied hdeployment rfl⟩

/-- What is done about the validating webhook before the mutating one is taken
away. -/
def validatingStep (s : Surroundings) (spec : Agent.Spec) (opts : ApplyOptions) :
    Except Error EnforcerObjects → Pass Bool
  | .error _ => ofTask (deleteIfExists .validatingWebhook s.kubelet spec)
  | .ok objects => do
    let stored ← ofTask (Task.ofExcept objects.secret.object.asSecret)
    let ready ← ofTask (Task.ofExcept (readyReplicas objects.deployment.object))
    if ready < 1 then ofTask (deleteIfExists .validatingWebhook s.kubelet spec)
    else
      let tls ← ofTask (Task.ofExcept (TlsMaterial.ofSecretData (stored.data.getD ∅)))
      let validating ← applied .validatingWebhook { s with tls := some tls } spec opts
      return validating.changed

/-- An enforcer that does not answer, or is not to enforce, ends with the work
on the validating webhook and then the deletion of the mutating one. -/
theorem runIn_applyEnforcer_of_exit {steps : Except Error EnforcerObjects}
    (hsteps : runIn x (enforcerSteps s spec opts) m w = ((steps, m'), w'))
    (hexit : ¬ Answering steps ∨
      spec.components.basic.enforcer.enableEnforcementFeature = false) :
    ∃ result : Bool → Bool → Except Error Bool,
      (∀ e, steps = .error e → ∀ a b, result a b = .error e) ∧
      runIn x (applyEnforcer s spec opts) m w = runIn x (do
        let first ← validatingStep s spec opts steps
        let rest ← ofTask (deleteIfExists .mutatingWebhook s.kubelet spec)
        ofTask (Task.ofExcept (result first rest))) m' w' := by
  rw [runIn_applyEnforcer, hsteps]
  cases steps with
  | error e =>
    refine ⟨fun _ _ => .error e, ?_, ?_⟩
    · intro e' he _ _
      cases he
      rfl
    · simp only [webhooks, deleteAll, bind_assoc, pure_bind, validatingStep]
      rfl
  | ok objects =>
    obtain ⟨⟨stored, hstored⟩, ready, hready⟩ := enforcerSteps_objects hsteps
    let changed := objects.secret.changed || objects.service.changed || objects.deployment.changed
    refine ⟨fun first rest => .ok (changed || (first || (rest || false))), ?_, ?_⟩
    · intro e he
      cases he
    · dsimp only [enforcerWebhooks, validatingStep]
      rw [hstored, hready]
      simp only [ofExcept_ok_bind]
      by_cases hfew : ready < 1
      · simp only [if_pos hfew, webhooks, deleteAll, bind_assoc, pure_bind]
        rfl
      · have hoff := hexit.resolve_left fun h => h ⟨objects, ready, rfl, hready, hfew⟩
        simp only [if_neg hfew, applyWebhooks, hoff, Bool.false_eq_true, if_false, deleteAll,
          bind_assoc, pure_bind]
        rfl

/-! ## The pass around the enforcer -/

/-- The components that come before the enforcer. -/
def coreComponents : List Component := [.configMap, .registrySecret, .priorityClass, .monitor]

def webhookKinds : List Kind := [.validatingWebhookConfiguration, .mutatingWebhookConfiguration]

/-- What a pass does before it comes to the enforcer. -/
def untilEnforcer (spec : Agent.Spec) (registry : RegistryCredentials)
    (setOwner : Option OwnerSetter) : Pass String := do
  let kubelet ← kubeletVersion
  let _ ← applyAll { kubelet, registry := some registry } spec { setOwner } coreComponents
  return kubelet

variable {registry : RegistryCredentials} {setOwner : Option OwnerSetter} {m₁ : Memory} {w₁ : Scene}

/-- Before the enforcer nothing is done about webhooks. -/
theorem spares_untilEnforcer : Spares x webhookKinds (untilEnforcer spec registry setOwner) := by
  refine spares_kubeletVersion.bind fun kubelet => ?_
  exact (spares_applyAll (by decide)).bind fun core => .pure _

/-- An error of the enforcer is the error of the pass, and after the enforcer
nothing is done about webhooks. -/
theorem runIn_applyDesiredState_of_untilEnforcer
    (h : runIn x (untilEnforcer spec registry setOwner) m w = ((.ok kubelet, m₁), w₁))
    {r : Except Error Bool}
    (hrun : runIn x (applyDesiredState spec registry setOwner) m w = ((r, m'), w')) :
    ∃ r₂ m₂ w₂, runIn x (applyEnforcer { kubelet, registry := some registry } spec { setOwner })
        m₁ w₁ = ((r₂, m₂), w₂) ∧
      (∀ e, r₂ = .error e → r = .error e) ∧ w₂.calls <+: w'.calls ∧
      ∀ q : Place, q.kind ∈ webhookKinds → w'.store.get? q = w₂.store.get? q := by
  obtain ⟨version, m₀, w₀, hkubelet, h⟩ := runIn_bind_eq_ok.1 h
  obtain ⟨core, m₁, w₁, hcore, h⟩ := runIn_bind_eq_ok.1 h
  cases h
  unfold applyDesiredState at hrun
  rw [runIn_bind, hkubelet] at hrun
  dsimp only at hrun
  unfold coreComponents at hcore
  rw [runIn_bind, hcore] at hrun
  dsimp only at hrun
  rcases runIn_bind_eq.1 hrun with ⟨e, henforcer, rfl⟩ | ⟨enforcer, m₂, w₂, henforcer, hrest⟩
  · refine ⟨_, _, _, henforcer, ?_, List.prefix_refl _, fun _ _ => rfl⟩
    intro e' he
    cases he
    rfl
  · refine ⟨_, _, _, henforcer, fun e he => (by cases he), calls_isPrefix hrest, ?_⟩
    refine Spares.same ?_ hrest
    refine (spares_applyAll (by decide)).bind fun stateReporter => ?_
    refine (spares_applyResolver (by decide) (by decide)).bind fun resolver => ?_
    refine (spares_applyIf (by decide)).bind fun reporter => ?_
    exact (spares_applyIf (by decide)).bind fun nodeAgent => .pure _

/-! ## Webhooks after a pass -/

variable {m₂ : Memory} {w₂ : Scene} {steps : Except Error EnforcerObjects}

theorem spares_enforcerSteps : Spares x webhookKinds (enforcerSteps s spec opts) := by
  refine (spares_applied (by decide)).bind fun secret => ?_
  refine (spares_applied (by decide)).bind fun service => ?_
  exact (spares_applied (by decide)).bind fun deployment => .pure _

/-- Of an enforcer that does not answer, the validating webhook is deleted. -/
theorem validatingStep_of_not_answering
    (hsteps : runIn x (enforcerSteps s spec opts) m w = ((steps, m'), w'))
    (hexit : ¬ Answering steps) :
    validatingStep s spec opts steps = ofTask (deleteIfExists .validatingWebhook s.kubelet spec) := by
  cases steps with
  | error e => rfl
  | ok objects =>
    obtain ⟨⟨stored, hstored⟩, ready, hready⟩ := enforcerSteps_objects hsteps
    have hfew : ready < 1 := by
      by_contra hfew
      exact hexit ⟨objects, ready, rfl, hready, hfew⟩
    simp only [validatingStep, hstored, hready, ofExcept_ok_bind, if_pos hfew]

theorem spares_validatingStep :
    Spares x [.mutatingWebhookConfiguration] (validatingStep s spec opts steps) := by
  cases steps with
  | error e => exact spares_deleteIfExists (by decide)
  | ok objects =>
    refine (spares_ofExcept _).bind fun stored => ?_
    refine (spares_ofExcept _).bind fun ready => ?_
    split
    · exact spares_deleteIfExists (by decide)
    · refine (spares_ofExcept _).bind fun tls => ?_
      exact (spares_applied (by decide)).bind fun validating => .pure _

/-- A last computation changes no more than the result of a task. -/
theorem runIn_ofTask_bind_ofExcept {β : Type} (task : Task α) (f : α → Except Error β) :
    runIn x (ofTask task >>= fun a => ofTask (Task.ofExcept (f a))) m w
      = (((Task.runIn x task w).1 >>= f, m), (Task.runIn x task w).2) := by
  rw [runIn_bind, runIn_ofTask]
  rcases Task.runIn x task w with ⟨_ | a, w₁⟩ <;> rfl

/-- Both webhooks are deleted, and then the result is given, if both are legible
and no call on them fails. -/
theorem webhooks_deleted {result : Bool → Bool → Except Error Bool} {r : Except Error Bool}
    (hrun : runIn x (do
      let first ← ofTask (deleteIfExists .validatingWebhook kubelet spec)
      let rest ← ofTask (deleteIfExists .mutatingWebhook kubelet spec)
      ofTask (Task.ofExcept (result first rest))) m w = ((r, m'), w'))
    (hlegible : ∀ c ∈ webhooks, c.Legible kubelet spec w.store)
    (hspared : ∀ c ∈ webhooks, Spared (c.place spec) w'.calls) :
    (∃ first rest, r = result first rest) ∧ ∀ c ∈ webhooks, w'.store.get? (c.place spec) = none := by
  have hlegible₁ := hlegible .validatingWebhook (by decide)
  have hlegible₂ := hlegible .mutatingWebhook (by decide)
  have hspared₁ := hspared .validatingWebhook (by decide)
  have hspared₂ := hspared .mutatingWebhook (by decide)
  rcases runIn_bind_eq.1 hrun with ⟨e, hfirst, rfl⟩ | ⟨first, m₁, w₁, hfirst, hrun⟩
  · obtain ⟨-, htask⟩ := runIn_ofTask_eq.1 hfirst
    obtain ⟨⟨b, hb⟩, -⟩ := deleteIfExists_of_legible htask hspared₁ hlegible₁
    cases hb
  have hlog := calls_isPrefix hrun
  obtain ⟨-, htask₁⟩ := runIn_ofTask_eq.1 hfirst
  obtain ⟨-, habsent₁⟩ := deleteIfExists_of_legible htask₁ (hspared₁.of_isPrefix hlog) hlegible₁
  -- The one deletion is about objects of another kind than the other.
  have hsame₁ := (deleting_of_runIn htask₁).get?_of_kind_ne (p := Component.mutatingWebhook.place spec)
    (by simp [Component.place, Component.kind])
  rcases htask₂ : Task.runIn x (deleteIfExists .mutatingWebhook kubelet spec) w₁ with ⟨r₂, w₂⟩
  rw [runIn_ofTask_bind_ofExcept, htask₂] at hrun
  cases hrun
  have hsame₂ := (deleting_of_runIn htask₂).get?_of_kind_ne
    (p := Component.validatingWebhook.place spec) (by simp [Component.place, Component.kind])
  obtain ⟨⟨rest, rfl⟩, habsent₂⟩ :=
    deleteIfExists_of_legible htask₂ hspared₂ (hlegible₂.of_same hsame₁)
  refine ⟨⟨first, rest, rfl⟩, fun c hc => ?_⟩
  rcases List.mem_pair.1 hc with rfl | rfl
  · rw [hsame₂, habsent₁]
  · exact habsent₂

/-! ## Withdrawal -/

/-- The steady setting, but calls about objects of some kinds fail. -/
def Setting.without (kinds : List Kind) : Setting :=
  { Setting.steady with
    failure := fun _ c => if c.kind ∈ kinds then some (Store.unavailable c) else none }

theorem spared_without {kinds : List Kind} {p : Place} (hp : p.kind ∉ kinds)
    {pass : Pass α} {r : Except Error α}
    (h : runIn (.without kinds) pass m ⟨t, []⟩ = ((r, m'), w')) : Spared p w'.calls := by
  refine spared_of_failure (fun n c hc => ?_) h
  cases hc
  exact if_neg hp

/-- A store with nothing in it but blank webhooks. -/
def blankWebhooks (kubelet : String) (spec : Agent.Spec) : Table :=
  webhooks.foldl (fun t c => t.put (c.place spec) (named (c.key spec) (c.emptyObject kubelet)).encode)
    {}

theorem orderly_blankWebhooks : Orderly kubelet (blankWebhooks kubelet spec) := by
  have hblank (c : Component) :
      Kept kubelet (c.place spec) (named (c.key spec) (c.emptyObject kubelet)).encode := by
    refine .written ⟨by cases c <;> rfl, ?_, ?_⟩
    · exact known_named (known_emptyObject c kubelet)
    · intro d spec' hplace
      cases Component.eq_of_place hplace
      exact tidy_withMetadata (tidy_emptyObject c kubelet) _
  exact ((orderly_empty fun _ => rfl).put (hblank .validatingWebhook)).put (hblank .mutatingWebhook)

/-- **Webhooks do not outlive a working enforcer.** In a pass that comes to the
enforcer and in which no call on the webhooks fails, both are gone at the end if
a step of the enforcer failed or left no replica that is ready. The error of a
step is the error of the pass. -/
theorem applyDesiredState_withdraws_webhooks {r : Except Error Bool}
    (hstart : runIn x (untilEnforcer spec registry setOwner) m ⟨t, []⟩ = ((.ok kubelet, m₁), w₁))
    (hsteps : runIn x (enforcerSteps { kubelet, registry := some registry } spec { setOwner }) m₁ w₁
      = ((steps, m₂), w₂)) (hexit : ¬ Answering steps)
    (hlegible : ∀ c ∈ webhooks, c.Legible kubelet spec t)
    (hrun : runIn x (applyDesiredState spec registry setOwner) m ⟨t, []⟩ = ((r, m'), w'))
    (hspared : ∀ c ∈ webhooks, Spared (c.place spec) w'.calls) :
    (∀ c ∈ webhooks, w'.store.get? (c.place spec) = none) ∧ ∀ e, steps = .error e → r = .error e := by
  obtain ⟨r₃, m₃, w₃, henforcer, herror, hlog, hafter⟩ :=
    runIn_applyDesiredState_of_untilEnforcer hstart hrun
  obtain ⟨result, hresult, hrun₃⟩ := runIn_applyEnforcer_of_exit hsteps (.inl hexit)
  rw [hrun₃, validatingStep_of_not_answering hsteps hexit] at henforcer
  have hbefore (q : Place) (hq : q.kind ∈ webhookKinds) : w₂.store.get? q = t.get? q := by
    rw [spares_enforcerSteps.same hsteps q hq, spares_untilEnforcer.same hstart q hq]
  have hkind : ∀ c ∈ webhooks, c.kind ∈ webhookKinds := by decide
  obtain ⟨⟨first, rest, rfl⟩, hgone⟩ := webhooks_deleted henforcer
    (fun c hc => (hlegible c hc).of_same (hbefore _ (hkind c hc)))
    fun c hc => (hspared c hc).of_isPrefix hlog
  refine ⟨fun c hc => ?_, fun e he => herror e (hresult e he first rest)⟩
  rw [hafter _ (hkind c hc), hgone c hc]

/-- Whether a pass over blank webhooks, in the steady setting without calls of
some kinds, comes to an enforcer that fails. -/
def failsAtEnforcer (kinds : List Kind) : Bool :=
  let x := Setting.without kinds
  let start := runIn x (untilEnforcer default ⟨"", ∅⟩ none) {} ⟨blankWebhooks "v1.20.0" default, []⟩
  let s : Surroundings := { kubelet := "v1.20.0", registry := some ⟨"", ∅⟩ }
  start.1.1.toOption = some "v1.20.0" &&
    !(runIn x (enforcerSteps s default {}) start.1.2 start.2).1.1.toBool

theorem steps_of_failsAtEnforcer (kinds : List Kind) (h : failsAtEnforcer kinds = true) :
    ∃ m₁ w₁ e m₂ w₂,
      runIn (.without kinds) (untilEnforcer default ⟨"", ∅⟩ none) {}
        ⟨blankWebhooks "v1.20.0" default, []⟩ = ((.ok "v1.20.0", m₁), w₁) ∧
      runIn (.without kinds)
        (enforcerSteps { kubelet := "v1.20.0", registry := some ⟨"", ∅⟩ } default {}) m₁ w₁
          = ((.error e, m₂), w₂) := by
  unfold failsAtEnforcer at h
  dsimp only at h
  rcases hstart : runIn (.without kinds) (untilEnforcer default ⟨"", ∅⟩ none) {}
    ⟨blankWebhooks "v1.20.0" default, []⟩ with ⟨⟨_ | kubelet, m₁⟩, w₁⟩
  · rw [hstart] at h
    cases h
  rw [hstart, Bool.and_eq_true, decide_eq_true_eq] at h
  obtain ⟨hkubelet, hfails⟩ := h
  cases hkubelet
  rcases hsteps : runIn (.without kinds)
    (enforcerSteps { kubelet := "v1.20.0", registry := some ⟨"", ∅⟩ } default {}) m₁ w₁
    with ⟨⟨e | objects, m₂⟩, w₂⟩
  · exact ⟨m₁, w₁, e, m₂, w₂, rfl, hsteps⟩
  · rw [hsteps] at hfails
    cases hfails

set_option maxRecDepth 10000 in
/-- Without its service the enforcer cannot be reached, and both webhooks that
were there go. -/
theorem withdraws_webhooks_without_service :
    ∃ m₁ w₁ e m₂ w₂ r m' w',
      runIn (.without [.service]) (untilEnforcer default ⟨"", ∅⟩ none) {}
        ⟨blankWebhooks "v1.20.0" default, []⟩ = ((.ok "v1.20.0", m₁), w₁) ∧
      runIn (.without [.service])
        (enforcerSteps { kubelet := "v1.20.0", registry := some ⟨"", ∅⟩ } default {}) m₁ w₁
          = ((.error e, m₂), w₂) ∧
      runIn (.without [.service]) (applyDesiredState default ⟨"", ∅⟩ none) {}
        ⟨blankWebhooks "v1.20.0" default, []⟩ = ((r, m'), w') ∧
      (∀ c ∈ webhooks, w'.store.get? (c.place default) = none) ∧ r = .error e := by
  obtain ⟨m₁, w₁, e, m₂, w₂, hstart, hsteps⟩ :=
    @steps_of_failsAtEnforcer [.service] (by decide +kernel)
  rcases hrun : runIn (.without [.service]) (applyDesiredState default ⟨"", ∅⟩ none) {}
    ⟨blankWebhooks "v1.20.0" default, []⟩ with ⟨⟨r, m'⟩, w'⟩
  have hkinds : ∀ c ∈ webhooks, c.kind ≠ .deployment ∧ c.kind ∉ [Kind.service] := by decide
  obtain ⟨hgone, herror⟩ := applyDesiredState_withdraws_webhooks hstart hsteps
    (fun ⟨_, _, hok, _⟩ => by cases hok)
    (fun c hc => orderly_blankWebhooks.legible (hkinds c hc).1) hrun
    (fun c hc => spared_without (hkinds c hc).2 hrun)
  exact ⟨m₁, w₁, e, m₂, w₂, r, m', w', hstart, hsteps, rfl, hgone, herror e rfl⟩

/-- **When the mutating webhook is taken away.** In a pass that comes to the
enforcer, where the enforcer does not answer or is not to enforce and no call on
the mutating webhook fails, that webhook is gone at the end exactly if it was not
there or could be read and deleted, and what is done about the validating one
before it succeeded. -/
theorem mutatingWebhook_absent_iff {r : Except Error Bool}
    (hstart : runIn x (untilEnforcer spec registry setOwner) m ⟨t, []⟩ = ((.ok kubelet, m₁), w₁))
    (hsteps : runIn x (enforcerSteps { kubelet, registry := some registry } spec { setOwner }) m₁ w₁
      = ((steps, m₂), w₂))
    (hexit : ¬ Answering steps ∨
      spec.components.basic.enforcer.enableEnforcementFeature = false)
    (hrun : runIn x (applyDesiredState spec registry setOwner) m ⟨t, []⟩ = ((r, m'), w'))
    (hspared : Spared (Component.mutatingWebhook.place spec) w'.calls) :
    w'.store.get? (Component.mutatingWebhook.place spec) = none ↔
      t.get? (Component.mutatingWebhook.place spec) = none ∨
        Component.mutatingWebhook.Legible kubelet spec t ∧
          ∃ first m₃ w₃, runIn x
            (validatingStep { kubelet, registry := some registry } spec { setOwner } steps) m₂ w₂
              = ((.ok first, m₃), w₃) := by
  obtain ⟨r₃, m₃, w₃, henforcer, -, hlog, hafter⟩ :=
    runIn_applyDesiredState_of_untilEnforcer hstart hrun
  obtain ⟨result, -, hrun₃⟩ := runIn_applyEnforcer_of_exit hsteps hexit
  rw [hrun₃] at henforcer
  let q := Component.mutatingWebhook.place spec
  have hq : q.kind ∈ webhookKinds := by simp [q, Component.place, Component.kind, webhookKinds]
  have hbefore : w₂.store.get? q = t.get? q := by
    rw [spares_enforcerSteps.same hsteps q hq, spares_untilEnforcer.same hstart q hq]
  rw [hafter q hq]
  rcases runIn_bind_eq.1 henforcer with ⟨e, hfirst, rfl⟩ | ⟨first, m₄, w₄, hfirst, hnext⟩
  · have hsame : w₃.store.get? q = t.get? q := by
      rw [spares_validatingStep.same hfirst q (by simp [q, Component.place, Component.kind]), hbefore]
    rw [hsame]
    refine ⟨.inl, ?_⟩
    rintro (habsent | ⟨-, first, m₄, w₄, hok⟩)
    · exact habsent
    · cases hfirst.symm.trans hok
  · have hsame : w₄.store.get? q = t.get? q := by
      rw [spares_validatingStep.same hfirst q (by simp [q, Component.place, Component.kind]), hbefore]
    rcases hdelete : Task.runIn x (deleteIfExists .mutatingWebhook kubelet spec) w₄ with ⟨r₅, w₅⟩
    rw [runIn_ofTask_bind_ofExcept, hdelete] at hnext
    cases hnext
    rw [deleteIfExists_absent_iff hdelete (hspared.of_isPrefix hlog)]
    constructor
    · intro hlegible
      exact .inr ⟨hlegible.of_same hsame.symm, first, _, _, hfirst⟩
    · rintro (habsent | ⟨hlegible, -⟩)
      · intro j hj
        cases (hsame.trans habsent).symm.trans hj
      · exact hlegible.of_same hsame

set_option maxRecDepth 10000 in
theorem mutatingWebhook_absent_iff_without_service :
    ∃ m₁ w₁ e m₂ w₂ r m' w',
      runIn (.without [.service]) (untilEnforcer default ⟨"", ∅⟩ none) {}
        ⟨blankWebhooks "v1.20.0" default, []⟩ = ((.ok "v1.20.0", m₁), w₁) ∧
      runIn (.without [.service])
        (enforcerSteps { kubelet := "v1.20.0", registry := some ⟨"", ∅⟩ } default {}) m₁ w₁
          = ((.error e, m₂), w₂) ∧
      runIn (.without [.service]) (applyDesiredState default ⟨"", ∅⟩ none) {}
        ⟨blankWebhooks "v1.20.0" default, []⟩ = ((r, m'), w') ∧
      Spared (Component.mutatingWebhook.place default) w'.calls ∧
      (w'.store.get? (Component.mutatingWebhook.place default) = none ↔
        (blankWebhooks "v1.20.0" default).get? (Component.mutatingWebhook.place default) = none ∨
          Component.mutatingWebhook.Legible "v1.20.0" default (blankWebhooks "v1.20.0" default) ∧
            ∃ first m₃ w₃, runIn (.without [.service])
              (validatingStep { kubelet := "v1.20.0", registry := some ⟨"", ∅⟩ } default {}
                (.error e)) m₂ w₂ = ((.ok first, m₃), w₃)) := by
  obtain ⟨m₁, w₁, e, m₂, w₂, hstart, hsteps⟩ :=
    @steps_of_failsAtEnforcer [.service] (by decide +kernel)
  rcases hrun : runIn (.without [.service]) (applyDesiredState default ⟨"", ∅⟩ none) {}
    ⟨blankWebhooks "v1.20.0" default, []⟩ with ⟨⟨r, m'⟩, w'⟩
  have hspared : Spared (Component.mutatingWebhook.place default) w'.calls :=
    spared_without (by decide) hrun
  refine ⟨m₁, w₁, e, m₂, w₂, r, m', w', hstart, hsteps, rfl, hspared, ?_⟩
  exact mutatingWebhook_absent_iff hstart hsteps (.inl fun ⟨_, _, hok, _⟩ => by cases hok) hrun
    hspared

set_option maxRecDepth 10000 in
/-- A mutating webhook stays where the validating one cannot be deleted, though
no call on it fails. -/
theorem mutatingWebhook_stays_beside_validating :
    ∃ m₁ w₁ e m₂ w₂ r m' w',
      runIn (.without [.service, .validatingWebhookConfiguration])
        (untilEnforcer default ⟨"", ∅⟩ none) {} ⟨blankWebhooks "v1.20.0" default, []⟩
          = ((.ok "v1.20.0", m₁), w₁) ∧
      runIn (.without [.service, .validatingWebhookConfiguration])
        (enforcerSteps { kubelet := "v1.20.0", registry := some ⟨"", ∅⟩ } default {}) m₁ w₁
          = ((.error e, m₂), w₂) ∧
      runIn (.without [.service, .validatingWebhookConfiguration])
        (applyDesiredState default ⟨"", ∅⟩ none) {} ⟨blankWebhooks "v1.20.0" default, []⟩
          = ((r, m'), w') ∧
      Spared (Component.mutatingWebhook.place default) w'.calls ∧
      (w'.store.get? (Component.mutatingWebhook.place default)).isSome = true := by
  obtain ⟨m₁, w₁, e, m₂, w₂, hstart, hsteps⟩ := steps_of_failsAtEnforcer
    [.service, .validatingWebhookConfiguration] (by decide +kernel)
  have hstays : ((runIn (.without [.service, .validatingWebhookConfiguration])
      (applyDesiredState default ⟨"", ∅⟩ none) {} ⟨blankWebhooks "v1.20.0" default, []⟩).2.store.get?
        (Component.mutatingWebhook.place default)).isSome = true := by
    decide +kernel
  rcases hrun : runIn (.without [.service, .validatingWebhookConfiguration])
    (applyDesiredState default ⟨"", ∅⟩ none) {} ⟨blankWebhooks "v1.20.0" default, []⟩
    with ⟨⟨r, m'⟩, w'⟩
  rw [hrun] at hstays
  exact ⟨m₁, w₁, e, m₂, w₂, r, m', w', hstart, hsteps, rfl, spared_without (by decide) hrun, hstays⟩

end AgentOperator.Dataplane
