import AgentOperator.Proofs.Convergence
import AgentOperator.Proofs.Resumption
import AgentOperator.Proofs.Retention

/-!
AgentOperator.Proofs.Recovery — passes that fail are made good by one that does not.

From the empty store, a pass that fails lands the first writes of the pass that
would not have failed, and the next one takes up the rest. Nothing of that is
undone: webhooks are only deleted after a failure, and without a replica that is
ready there are none (`Bare`), which passes do not change, for the status of the
enforcer belongs to others. So after any failed passes the store is some way along
to where one healthy pass leads (`Underway`), and that is where the next healthy
pass leads from there.
-/

namespace AgentOperator.Dataplane

open Kube (Deployment Object ObjectStatus)
open Pass
open Store (Call Place Table placeOf)

variable {α : Type} {x : Setting} {c : Component} {kubelet : String} {s : Surroundings}
  {spec : Agent.Spec} {opts : ApplyOptions} {setOwner : Option OwnerSetter} {t t' : Table}
  {m m' : Memory} {w w' : Scene}

/-! ## An enforcer that is not ready -/

/-- Whether the enforcer is ready can be told from its deployment as it is read. -/
theorem enforcerReady_iff_stored (kubelet : String) : EnforcerReady spec t ↔
    ∃ o ready, Component.enforcer.stored kubelet spec t = .ok (some o) ∧
      readyReplicas o = .ok ready ∧ 1 ≤ ready := by
  constructor
  · rintro ⟨j, d, hj, hdecode, hready⟩
    refine ⟨.deployment d, _, ?_, rfl, hready⟩
    refine (Table.read_of_some hj).trans ?_
    show some <$> (Object.deployment <$> orUnreadable (Deployment.codec.decode j)) = _
    rw [hdecode]
    rfl
  · rintro ⟨o, ready, hstored, hreplicas, hready⟩
    obtain ⟨j, hj, hread⟩ := Table.get?_of_read_eq_some hstored
    obtain ⟨d, hdecode, rfl⟩ := Except.map_eq_ok.1 hread
    cases hreplicas
    exact ⟨j, d, hj, Kube.orUnreadable_eq_ok.1 hdecode, hready⟩

/-- Replicas are counted in the status. -/
theorem readyReplicas_congr {o o' : Object} (h : o'.status = o.status)
    {ready : Int32} (hready : readyReplicas o' = .ok ready) : readyReplicas o = .ok ready := by
  cases o' <;> cases hready
  cases o <;> simp only [Object.status, reduceCtorEq, ObjectStatus.deployment.injEq] at h
  rw [h]
  rfl

/-- Bringing components to the spec makes no enforcer ready. -/
theorem Applying.enforcerReady {r : Except Error Applied} (h : Applying x c s spec opts t r t')
    (hopts : opts.Proper) (ht : Placed t) (hready : EnforcerReady spec t') : EnforcerReady spec t := by
  by_cases hc : c = .enforcer
  · subst hc
    cases r with
    | error e =>
      cases h with
      | stopped => exact hready
      | unwritten => exact hready
    | ok a =>
      have hafter := h.stored_after hopts ht
      obtain ⟨o, ready, hstored, hreplicas, hle⟩ := (enforcerReady_iff_stored s.kubelet).1 hready
      cases hstored.symm.trans hafter
      cases h with
      | kept => exact hready
      | same => exact hready
      | @written found _ hread hwanted =>
        have hstatus := readyReplicas_congr (status_of_wanted hopts hwanted) hreplicas
        cases found with
        | some observed =>
          exact (enforcerReady_iff_stored s.kubelet).2 ⟨observed, ready, hread, hstatus, hle⟩
        | none =>
          -- A deployment that is made anew has no replicas at all.
          cases hstatus
          exact absurd hle (by decide)
  · refine (EnforcerReady.congr (h.get?_of_ne hopts ht fun hplace => ?_)).1 hready
    exact hc (Component.eq_of_place hplace).symm

theorem Deleting.enforcerReady {r : Except Error Bool} (h : Deleting c kubelet spec t r t')
    (hready : EnforcerReady spec t') : EnforcerReady spec t := by
  obtain ⟨j, d, hj, hd⟩ := hready
  exact ⟨j, d, h.get?_eq_some hj, hd⟩

/-- A placed store without webhooks, and without an enforcer that is ready. -/
structure Bare (spec : Agent.Spec) (t : Table) : Prop where
  placed : Placed t
  unready : ¬ EnforcerReady spec t
  absent : ∀ c ∈ webhooks, t.get? (c.place spec) = none

theorem bare_empty : Bare spec {} := by
  refine ⟨placed_empty, ?_, fun _ _ => rfl⟩
  rintro ⟨j, d, hj, -⟩
  cases hj

/-- Where there are no webhooks, none are deleted. -/
theorem Bare.webhookDeletions (h : Bare spec t) : webhookDeletions kubelet spec t = [] := by
  have habsent {c : Component} (hc : c ∈ webhooks) : c.stored kubelet spec t = .ok none := by
    refine Table.read_of_none ?_
    rw [emptyObject_kind]
    exact h.absent c hc
  simp only [Dataplane.webhookDeletions, webhooks, deletions,
    habsent (c := .validatingWebhook) (by decide), habsent (c := .mutatingWebhook) (by decide)]
  rfl

/-- Plain work leaves an enforcer that is not ready as it is. -/
theorem Pass.Plain.unready {b : Bool} {p : Pass α} {f : α → Bool} {r : Except Error α}
    (h : Plain spec setOwner b p f) (hopts : ApplyOptions.Proper { setOwner })
    (hrun : runIn x p m w = ((r, m'), w')) (hw : Placed w.store) (hready : ¬ EnforcerReady spec w.store) :
    Placed w'.store ∧ ¬ EnforcerReady spec w'.store := by
  refine h.preserves (J := fun t => Placed t ∧ ¬ EnforcerReady spec t) ?_ ?_ hrun ⟨hw, hready⟩
  · rintro c s opts r t t' rfl happly ⟨ht, hunready⟩
    have hproper : opts.Proper := hopts
    exact ⟨happly.placed hproper ht, mt (happly.enforcerReady hproper ht) hunready⟩
  · rintro c kubelet r t t' hdelete ⟨ht, hunready⟩
    exact ⟨hdelete.placed ht, mt hdelete.enforcerReady hunready⟩

/-- Work about other components leaves a bare store bare. -/
theorem Bare.plain {b : Bool} {p : Pass α} {f : α → Bool} {r : Except Error α}
    (h : Bare spec w.store) (hp : Plain spec setOwner b p f) (hspares : Spares x webhookKinds p)
    (hopts : ApplyOptions.Proper { setOwner }) (hrun : runIn x p m w = ((r, m'), w')) :
    Bare spec w'.store := by
  obtain ⟨hplaced, hunready⟩ := hp.unready hopts hrun h.placed h.unready
  have hkind : ∀ c ∈ webhooks, c.kind ∈ webhookKinds := by decide
  refine ⟨hplaced, hunready, fun c hc => ?_⟩
  rw [hspares.same hrun (c.place spec) (hkind c hc)]
  exact h.absent c hc

/-- Steps that leave an enforcer that is not ready leave none that answers. -/
theorem not_answering_of_unready {steps : Except Error EnforcerObjects}
    (hsteps : runIn x (enforcerSteps s spec opts) m w = ((steps, m'), w'))
    (hopts : opts.Proper) (hw : Placed w.store) (hready : ¬ EnforcerReady spec w'.store) :
    ¬ Answering steps := by
  rintro ⟨objects, ready, rfl, hreplicas, hmany⟩
  unfold enforcerSteps at hsteps
  obtain ⟨secret, m₁, w₁, hsecret, hsteps⟩ := runIn_bind_eq_ok.1 hsteps
  obtain ⟨service, m₂, w₂, hservice, hsteps⟩ := runIn_bind_eq_ok.1 hsteps
  obtain ⟨deployment, m₃, w₃, hdeployment, hsteps⟩ := runIn_bind_eq_ok.1 hsteps
  cases hsteps
  have hplaced₁ := (applying_of_applied hsecret).2.placed hopts hw
  have hplaced₂ := (applying_of_applied hservice).2.placed hopts hplaced₁
  have hstored := (applying_of_applied hdeployment).2.stored_after hopts hplaced₂
  refine hready ((enforcerReady_iff_stored s.kubelet).2 ⟨_, ready, hstored, hreplicas, ?_⟩)
  exact Int32.not_lt.1 hmany

theorem Bare.deleting {r : Except Error Bool} (h : Bare spec t)
    (hdelete : Deleting c kubelet spec t r t') : Bare spec t' := by
  refine ⟨hdelete.placed h.placed, mt hdelete.enforcerReady h.unready, fun d hd => ?_⟩
  cases hget : t'.get? (d.place spec) with
  | none => rfl
  | some j =>
    cases (h.absent d hd).symm.trans (hdelete.get?_eq_some hget)

theorem bare_applyEnforcer {r : Except Error Bool} (h : Bare spec w.store) (hopts : opts.Proper)
    (hrun : runIn x (applyEnforcer s spec opts) m w = ((r, m'), w')) : Bare spec w'.store := by
  rcases hsteps : runIn x (enforcerSteps s spec opts) m w with ⟨⟨steps, m₁⟩, w₁⟩
  have hplain : Plain spec opts.setOwner false (enforcerSteps s spec opts)
      fun objects => false || objects.changed := plain_enforcerSteps rfl
  have hbare := h.plain hplain spares_enforcerSteps hopts hsteps
  have hexit := not_answering_of_unready hsteps hopts h.placed hbare.unready
  obtain ⟨result, -, hexited⟩ := runIn_applyEnforcer_of_exit hsteps (.inl hexit)
  rw [hexited, validatingStep_of_not_answering hsteps hexit] at hrun
  rcases runIn_bind_eq.1 hrun with ⟨e, hfirst, -⟩ | ⟨first, m₂, w₂, hfirst, hrest⟩
  · exact hbare.deleting (deleting_of_runIn (runIn_ofTask_eq.1 hfirst).2)
  · have hbare₂ := hbare.deleting (deleting_of_runIn (runIn_ofTask_eq.1 hfirst).2)
    rw [runIn_ofTask_bind_ofExcept] at hrest
    rcases htask : Task.runIn x (deleteIfExists .mutatingWebhook s.kubelet spec) w₂ with ⟨r₃, w₃⟩
    rw [htask] at hrest
    cases hrest
    exact hbare₂.deleting (deleting_of_runIn htask)

variable {registry : RegistryCredentials}

theorem spares_applyLater {changed : Bool} :
    Spares x webhookKinds (applyLater s spec opts changed) := by
  refine (spares_applyAll (by decide)).bind fun stateReporter => ?_
  refine (spares_applyResolver (by decide) (by decide)).bind fun resolver => ?_
  refine (spares_applyIf (by decide)).bind fun reporter => ?_
  exact (spares_applyIf (by decide)).bind fun nodeAgent => .pure _

/-- A pass over a bare store leaves it bare, however it ends. -/
theorem bare_applyKnown {r : Except Error Bool} (h : Bare spec w.store)
    (hopts : ApplyOptions.Proper { setOwner })
    (hrun : runIn x (applyKnown kubelet spec registry setOwner) m w = ((r, m'), w')) :
    Bare spec w'.store := by
  unfold applyKnown at hrun
  have hcore : Plain spec setOwner false
      (applyAll { kubelet, registry := some registry } spec { setOwner } coreComponents)
      fun changed => false || changed := plain_applyAll rfl
  rcases runIn_bind_eq.1 hrun with ⟨e, hstop, -⟩ | ⟨core, m₁, w₁, hfirst, hnext⟩
  · exact h.plain hcore (spares_applyAll (by decide)) hopts hstop
  have hbare₁ := h.plain hcore (spares_applyAll (by decide)) hopts hfirst
  rcases runIn_bind_eq.1 hnext with ⟨e, hstop, -⟩ | ⟨enforcer, m₂, w₂, henforcer, hlater⟩
  · exact bare_applyEnforcer hbare₁ hopts hstop
  have hbare₂ := bare_applyEnforcer hbare₁ hopts henforcer
  have hplain : Plain spec setOwner (core || enforcer)
      (applyLater { kubelet, registry := some registry } spec { setOwner } (core || enforcer)) id :=
    plain_applyLater rfl
  exact hbare₂.plain hplain spares_applyLater hopts hlater

/-! ## Passes one after the other -/

/-- Work that goes by a known kubelet version. -/
theorem runIn_applyDesiredState_of_version (hversion : x.version m = .ok kubelet) (w : Scene) :
    runIn x (applyDesiredState spec registry setOwner) m w
      = runIn x (applyKnown kubelet spec registry setOwner) { m with kubelet := some kubelet } w := by
  unfold Setting.version at hversion
  rw [applyDesiredState_eq, runIn_bind]
  cases hm : m.kubelet with
  | some version =>
    rw [hm] at hversion
    cases hversion
    rw [runIn_kubeletVersion_of_known hm, ← hm]
  | none =>
    rw [hm] at hversion
    rw [runIn_kubeletVersion_of_unknown hm, show x.kubelet = .ok kubelet from hversion]

/-- Without the kubelet version nothing is done. -/
theorem runIn_applyDesiredState_of_error {e : Error} (hversion : x.version m = .error e)
    (w : Scene) : runIn x (applyDesiredState spec registry setOwner) m w = ((.error e, m), w) := by
  unfold Setting.version at hversion
  rw [applyDesiredState_eq, runIn_bind]
  cases hm : m.kubelet with
  | some version =>
    rw [hm] at hversion
    cases hversion
  | none =>
    rw [hm] at hversion
    rw [runIn_kubeletVersion_of_unknown hm, show x.kubelet = .error e from hversion]

/-- A pass in which calls may fail in their own way, from what is remembered and
stored before it to what is after it. -/
def Setting.pass (x : Setting) (spec : Agent.Spec) (registry : RegistryCredentials)
    (setOwner : Option OwnerSetter) (before : Memory × Table)
    (failure : Nat → Call → Option Error) : Memory × Table :=
  let after := runIn { x with failure } (applyDesiredState spec registry setOwner) before.1
    ⟨before.2, []⟩
  (after.1.2, after.2.store)

/-- What is remembered and stored after passes over the empty store. -/
def Setting.passes (x : Setting) (spec : Agent.Spec) (registry : RegistryCredentials)
    (setOwner : Option OwnerSetter) (m : Memory) (failures : List (Nat → Call → Option Error)) :
    Memory × Table :=
  failures.foldl (x.pass spec registry setOwner) (m, {})

/-- A store that some first of these writes have led to, while the others are still
to be made. -/
structure Underway (x : Setting) (kubelet : String) (spec : Agent.Spec) (writes : List Call)
    (before : Memory × Table) : Prop where
  version : x.version before.1 = .ok kubelet
  orderly : Orderly kubelet before.2
  bare : Bare spec before.2
  left : ∃ done rest, writes = done ++ rest ∧ before.2 = Table.replay {} done

variable {writes : List Call} {before : Memory × Table} {r : Except Error Bool}

/-- A healthy pass makes the writes that are left. -/
theorem Underway.healthy (h : Underway x kubelet spec writes before) {cs : List Component}
    (hresumed : Resumed x kubelet spec cs (applyKnown kubelet spec registry setOwner)
      (applyKnown kubelet spec registry setOwner) (fun _ _ => True) {} r writes) :
    ∃ done rest, writes = done ++ rest ∧ before.2 = Table.replay {} done ∧
      landed (runIn x.calm (applyDesiredState spec registry setOwner) before.1
        ⟨before.2, []⟩).2.calls = rest ∧
      (runIn x.calm (applyDesiredState spec registry setOwner) before.1 ⟨before.2, []⟩).2.store
        = Table.replay {} writes := by
  obtain ⟨done, rest, hsplit, hstore⟩ := h.left
  obtain ⟨r', -, hacts⟩ := hresumed.again done rest hsplit
  rw [← hstore] at hacts
  obtain ⟨m', new, hrun, -, hnew⟩ :=
    hacts { before.1 with kubelet := some kubelet } ⟨before.2, []⟩ rfl fun _ _ => rfl
  refine ⟨done, rest, hsplit, hstore, ?_⟩
  rw [runIn_applyDesiredState_of_version (x := x.calm) h.version, hrun]
  refine ⟨hnew, ?_⟩
  show before.2.replay rest = _
  rw [hstore, hsplit, Table.replay_append]

/-- A pass that fails makes the first ones of the writes that are left. -/
theorem Underway.pass (h : Underway x kubelet spec writes before) {cs : List Component}
    (hresumed : Resumed x kubelet spec cs (applyKnown kubelet spec registry setOwner)
      (applyKnown kubelet spec registry setOwner) (fun _ _ => True) {} r writes)
    (hopts : ApplyOptions.Proper { setOwner }) (failure : Nat → Call → Option Error) :
    Underway x kubelet spec writes (x.pass spec registry setOwner before failure) := by
  let y : Setting := { x with failure }
  have hversion : y.version before.1 = .ok kubelet := h.version
  obtain ⟨done, rest, hsplit, hstore, hhealthy, -⟩ := h.healthy hresumed
  have hcut : CutShort (y.withdrawals before.1 spec before.2)
      (runIn y (applyDesiredState spec registry setOwner) before.1 ⟨before.2, []⟩)
      (runIn x.calm (applyDesiredState spec registry setOwner) before.1 ⟨before.2, []⟩) :=
    cutShort_applyDesiredState
  unfold Setting.pass
  rcases hrun : runIn y (applyDesiredState spec registry setOwner) before.1 ⟨before.2, []⟩
    with ⟨⟨r', m'⟩, w'⟩
  rw [hrun] at hcut
  have hmade : landed w'.calls <+: rest := by
    rcases hcut with hsame | ⟨-, done', pulled, hlanded, hdone, hpulled⟩
    · rw [← hhealthy, ← hsame]
    · rw [Setting.withdrawals, hversion] at hpulled
      dsimp only at hpulled
      rw [h.bare.webhookDeletions] at hpulled
      cases List.prefix_nil.1 hpulled
      rw [show landed w'.calls = done' ++ [] from hlanded, List.append_nil, ← hhealthy]
      exact hdone
  have hknown : runIn y (applyKnown kubelet spec registry setOwner)
      { before.1 with kubelet := some kubelet } ⟨before.2, []⟩ = ((r', m'), w') :=
    (runIn_applyDesiredState_of_version hversion _).symm.trans hrun
  have hagain : runIn y (applyDesiredState spec registry setOwner)
      { before.1 with kubelet := some kubelet } ⟨before.2, []⟩ = ((r', m'), w') :=
    (runIn_applyDesiredState_of_version rfl _).trans hknown
  have hleft := (settles_applyDesiredState (x := y) registry hopts y.calm_readable rfl).left rfl
    h.orderly hagain
  refine ⟨?_, hleft.orderly, bare_applyKnown h.bare hopts hknown, ?_⟩
  · show x.version m' = .ok kubelet
    rw [Setting.version, hleft.known]
  · obtain ⟨new, hcalls, hreplay⟩ := replay_of_runIn hrun
    obtain ⟨more, hmore⟩ := hmade
    refine ⟨done ++ landed w'.calls, more, ?_, ?_⟩
    · rw [List.append_assoc, hmore, hsplit]
    · rw [Table.replay_append, ← hstore, hcalls]
      exact hreplay

theorem Underway.passes (h : Underway x kubelet spec writes before) {cs : List Component}
    (hresumed : Resumed x kubelet spec cs (applyKnown kubelet spec registry setOwner)
      (applyKnown kubelet spec registry setOwner) (fun _ _ => True) {} r writes)
    (hopts : ApplyOptions.Proper { setOwner }) (failures : List (Nat → Call → Option Error)) :
    Underway x kubelet spec writes (failures.foldl (x.pass spec registry setOwner) before) := by
  induction failures generalizing before with
  | nil => exact h
  | cons failure failures ih => exact ih (h.pass hresumed hopts failure)

/-- Passes that do not come to know the kubelet version do nothing. -/
theorem passes_of_error {e : Error} (hversion : x.version m = .error e)
    (failures : List (Nat → Call → Option Error)) :
    x.passes spec registry setOwner m failures = (m, {}) := by
  have hidle (failure : Nat → Call → Option Error) :
      x.pass spec registry setOwner (m, {}) failure = (m, {}) := by
    unfold Setting.pass
    rw [runIn_applyDesiredState_of_error (x := { x with failure }) hversion]
  unfold Setting.passes
  induction failures with
  | nil => rfl
  | cons failure failures ih => rw [List.foldl_cons, hidle, ih]

/-- **Failed passes are made good by one that does not fail.** After any number of
passes over the empty store, whichever of their calls failed, a healthy pass leads to
the store that it leads to from the empty one. -/
theorem applyDesiredState_after_failures (x : Setting) (spec : Agent.Spec)
    (registry : RegistryCredentials) {setOwner : Option OwnerSetter}
    (hopts : ApplyOptions.Proper { setOwner }) (m : Memory)
    (failures : List (Nat → Call → Option Error)) :
    (runIn x.calm (applyDesiredState spec registry setOwner)
        (x.passes spec registry setOwner m failures).1
        ⟨(x.passes spec registry setOwner m failures).2, []⟩).2.store
      = (runIn x.calm (applyDesiredState spec registry setOwner) m ⟨{}, []⟩).2.store := by
  cases hversion : x.version m with
  | error e => rw [passes_of_error hversion]
  | ok kubelet =>
    have hempty : Orderly kubelet {} := orderly_empty fun _ => rfl
    have hresumes : Resumes x kubelet spec _ (applyKnown kubelet spec registry setOwner)
        (applyKnown kubelet spec registry setOwner) fun _ _ => True := resumes_applyKnown hopts
    obtain ⟨r, writes, hresumed⟩ := hresumes {} hempty
    have hstart : Underway x kubelet spec writes (m, {}) :=
      ⟨hversion, hempty, bare_empty, [], writes, rfl, rfl⟩
    obtain ⟨-, -, -, -, -, hafter⟩ := (hstart.passes hresumed hopts failures).healthy hresumed
    obtain ⟨-, -, -, -, -, hfresh⟩ := hstart.healthy hresumed
    exact hafter.trans hfresh.symm

set_option maxRecDepth 10000 in
/-- A first pass without services stops before the enforcer, and a healthy one makes
that good. -/
theorem after_failures_without_services :
    (Setting.steady.passes default ⟨"", ∅⟩ none {} [(Setting.without [.service]).failure]).2.get?
        (Component.enforcer.place default) = none ∧
      (runIn Setting.steady.calm (applyDesiredState default ⟨"", ∅⟩ none)
          (Setting.steady.passes default ⟨"", ∅⟩ none {} [(Setting.without [.service]).failure]).1
          ⟨(Setting.steady.passes default ⟨"", ∅⟩ none {}
            [(Setting.without [.service]).failure]).2, []⟩).2.store
        = (runIn Setting.steady.calm (applyDesiredState default ⟨"", ∅⟩ none) {} ⟨{}, []⟩).2.store := by
  refine ⟨by decide +kernel, ?_⟩
  exact applyDesiredState_after_failures .steady default ⟨"", ∅⟩ (fun _ h => by cases h) {} _

end AgentOperator.Dataplane
