import AgentOperator.Proofs.Plain
import AgentOperator.Proofs.Writes

/-!
AgentOperator.Proofs.Prefixes — a pass over a store that fails, beside the same
pass over the same store that does not.

Plain work goes as it would against the healthy store up to the first call that
fails, and there it ends (`Plain.cutShort`). Only a failed step of the enforcer is
followed by more, and that is the deletion of the webhooks. So the writes that a
pass lands are a first part of those it lands against the healthy store, followed
by deletions of webhooks at most (`applyDesiredState_cutShort`).
-/

namespace AgentOperator.Dataplane

open Kube (Kind Object ObjectKey)
open Pass
open Store (Call Place Table placeOf)

variable {α β : Type} {x : Setting} {c : Component} {kubelet : String} {s : Surroundings}
  {spec : Agent.Spec} {opts : ApplyOptions} {cs : List Component} {t u : Table}
  {m m' : Memory} {w w' : Scene} {extra : List Call}

/-! ## Runs that are cut short -/

/-- A run is as the other one, or it failed with the first writes of the other one
and then some of these extra ones. -/
def CutShort (extra : List Call) (run healthy : (Except Error α × Memory) × Scene) : Prop :=
  run = healthy ∨ (∃ e, run.1.1 = .error e) ∧ ∃ done pulled,
    landed run.2.calls = done ++ pulled ∧ done <+: landed healthy.2.calls ∧ pulled <+: extra

/-- A run that landed nothing more before it failed is cut short. -/
theorem CutShort.of_failed {e : Error} {healthy : (Except Error α × Memory) × Scene} {new : List Made}
    {t : Table} (hnew : landed new = []) (hlog : w.calls <+: healthy.2.calls) :
    CutShort extra ((.error e, m), ⟨t, w.calls ++ new⟩) healthy := by
  refine .inr ⟨⟨e, rfl⟩, landed w.calls, [], ?_, landed_isPrefix hlog, List.nil_prefix⟩
  show landed (w.calls ++ new) = landed w.calls ++ []
  rw [landed_append, hnew]

theorem calls_isPrefix_runIn (x : Setting) (p : Pass α) (m : Memory) (w : Scene) :
    w.calls <+: (runIn x p m w).2.calls :=
  calls_isPrefix rfl

/-- A run that is cut short goes no further. -/
theorem CutShort.bind {p : Pass α} {k : α → Pass β}
    (hp : CutShort extra (runIn x p m w) (runIn x.calm p m w))
    (hk : ∀ a m₁ w₁, runIn x p m w = ((.ok a, m₁), w₁) →
      CutShort extra (runIn x (k a) m₁ w₁) (runIn x.calm (k a) m₁ w₁)) :
    CutShort extra (runIn x (p >>= k) m w) (runIn x.calm (p >>= k) m w) := by
  have hlog : (runIn x.calm p m w).2.calls <+: (runIn x.calm (p >>= k) m w).2.calls := by
    rw [runIn_bind]
    rcases runIn x.calm p m w with ⟨⟨e | a, m₁⟩, w₁⟩
    · exact List.prefix_refl _
    · exact calls_isPrefix_runIn x.calm (k a) m₁ w₁
  rcases hp with hsame | ⟨⟨e, herror⟩, done, pulled, hlanded, hdone, hpulled⟩
  · rw [runIn_bind, runIn_bind, ← hsame]
    rcases hrun : runIn x p m w with ⟨⟨e | a, m₁⟩, w₁⟩
    · exact .inl rfl
    · exact hk a m₁ w₁ hrun
  · rcases hrun : runIn x p m w with ⟨⟨e' | a, m₁⟩, w₁⟩ <;> rw [hrun] at herror hlanded
    · refine .inr ⟨⟨e', ?_⟩, done, pulled, ?_, hdone.trans (landed_isPrefix hlog), hpulled⟩
      · rw [runIn_bind, hrun]
      · rw [runIn_bind, hrun]
        exact hlanded
    · cases herror

/-! ## Plain work -/

theorem cutShort_kubeletVersion :
    CutShort extra (runIn x kubeletVersion m w) (runIn x.calm kubeletVersion m w) := by
  refine .inl ?_
  cases hm : m.kubelet with
  | some kubelet => rw [runIn_kubeletVersion_of_known hm, runIn_kubeletVersion_of_known hm]
  | none =>
    rw [runIn_kubeletVersion_of_unknown hm, runIn_kubeletVersion_of_unknown hm]
    rfl

theorem cutShort_applied :
    CutShort extra (runIn x (applied c s spec opts) m w) (runIn x.calm (applied c s spec opts) m w) := by
  rcases x.once_calm_or (c.emptyObject s.kubelet) (c.key spec) (x.response c s spec opts) w with
    hsame | ⟨e, new, hfailed, hnew⟩
  · refine .inl ?_
    rw [runIn_applied, runIn_applied, runIn_apply, runIn_apply, hsame]
    rfl
  · have hrun : runIn x (applied c s spec opts) m w = ((.error e, m), ⟨w.store, w.calls ++ new⟩) := by
      rw [runIn_applied, runIn_apply, hfailed]
    rw [hrun]
    exact .of_failed hnew (calls_isPrefix_runIn ..)

theorem cutShort_deleteIfExists :
    CutShort extra (runIn x (ofTask (deleteIfExists c kubelet spec)) m w)
      (runIn x.calm (ofTask (deleteIfExists c kubelet spec)) m w) := by
  rcases x.once_calm_or (c.emptyObject kubelet) (c.key spec) deletion w with
    hsame | ⟨e, new, hfailed, hnew⟩
  · refine .inl ?_
    rw [runIn_ofTask, runIn_ofTask, runIn_deleteIfExists, runIn_deleteIfExists, hsame]
  · have hrun : runIn x (ofTask (deleteIfExists c kubelet spec)) m w
        = ((.error e, m), ⟨w.store, w.calls ++ new⟩) := by
      rw [runIn_ofTask, runIn_deleteIfExists, hfailed]
    rw [hrun]
    exact .of_failed hnew (calls_isPrefix_runIn ..)

/-- Plain work does nothing more once a call failed. -/
theorem Pass.Plain.cutShort {setOwner : Option OwnerSetter} {b : Bool} {p : Pass α} {f : α → Bool}
    (h : Plain spec setOwner b p f) (m : Memory) (w : Scene) :
    CutShort extra (runIn x p m w) (runIn x.calm p m w) := by
  induction h generalizing m w with
  | pure h => exact .inl rfl
  | throw e f => exact .inl rfl
  | bind hp hk ihp ihk => exact (ihp m w).bind fun a m₁ w₁ _ => ihk a m₁ w₁
  | ofExcept r => exact .inl rfl
  | kubeletVersion => exact cutShort_kubeletVersion
  | nodeCount => exact .inl rfl
  | applied c s hopts => exact cutShort_applied
  | deleteIfExists c kubelet => exact cutShort_deleteIfExists

/-! ## Deletions -/

/-- The deletion of what was found, if anything. -/
def deletionOf (found : Option Object) : List Call := (found.map Call.delete).toList

/-- The deletions of those of the components that are stored, up to the first one
that cannot be read. -/
def deletions (kubelet : String) (spec : Agent.Spec) (t : Table) : List Component → List Call
  | [] => []
  | c :: cs =>
    match c.stored kubelet spec t with
    | .ok found => deletionOf found ++ deletions kubelet spec t cs
    | .error _ => []

theorem deletions_congr (h : ∀ c ∈ cs, u.get? (c.place spec) = t.get? (c.place spec)) :
    deletions kubelet spec u cs = deletions kubelet spec t cs := by
  induction cs with
  | nil => rfl
  | cons c cs ih =>
    obtain ⟨hc, hcs⟩ := List.forall_mem_cons.1 h
    rw [deletions, deletions, stored_congr hc, ih hcs]

/-- A component that is deleted lands its deletion, unless a call failed. -/
theorem landed_deleteIfExists {r : Except Error Bool}
    (hrun : runIn x (ofTask (deleteIfExists c kubelet spec)) m w = ((r, m'), w')) :
    ((∃ e, r = .error e) ∧ landed w'.calls = landed w.calls) ∨
      ∃ found, c.stored kubelet spec w.store = .ok found ∧ r = .ok found.isSome ∧
        landed w'.calls = landed w.calls ++ deletionOf found ∧
        w'.store = w.store.replay (deletionOf found) := by
  obtain ⟨-, htask⟩ := runIn_ofTask_eq.1 hrun
  rw [runIn_deleteIfExists] at htask
  rcases Setting.once_cases htask with ⟨e, new, rfl, rfl, hnew⟩ | ⟨found, a, write, hread, ha, rfl, rfl⟩
  · refine .inl ⟨⟨e, rfl⟩, ?_⟩
    show landed (w.calls ++ new) = landed w.calls
    rw [landed_append, hnew, List.append_nil]
  · refine .inr ⟨found, hread, ?_⟩
    show Except.ok a = _ ∧ landed (w.calls ++ onceMade _ _ write) = _ ∧ w.store.replay write.toList = _
    have hwrite : ∀ call ∈ write, call.isWrite = true := by
      rintro call rfl
      exact onlyWrites_deletion found a call ha
    rw [landed_append, landed_onceMade hwrite]
    cases found <;> cases ha <;> exact ⟨rfl, rfl, rfl⟩

/-- Objects of another kind are nothing to a deletion. -/
theorem get?_replay_deletionOf {found : Option Object}
    (hread : c.stored kubelet spec t = .ok found) {p : Place} (hp : c.kind ≠ p.kind) :
    (t.replay (deletionOf found)).get? p = t.get? p := by
  refine Table.get?_replay_of_ne fun call hcall => ?_
  cases found with
  | none => cases hcall
  | some o =>
    cases List.mem_singleton.1 hcall
    intro hplace
    exact hp ((stored_kind hread).symm.trans (congrArg Place.kind hplace))

/-- Deleting components of different kinds lands some of their deletions, from the
first one on. -/
theorem landed_deleteAll (hkinds : (cs.map Component.kind).Nodup) {r : Except Error Bool}
    (hrun : runIn x (deleteAll kubelet spec cs) m w = ((r, m'), w')) :
    ∃ pulled, landed w'.calls = landed w.calls ++ pulled ∧
      pulled <+: deletions kubelet spec w.store cs := by
  induction cs generalizing m w m' w' r with
  | nil =>
    cases hrun
    exact ⟨[], (List.append_nil _).symm, List.nil_prefix⟩
  | cons c cs ih =>
    obtain ⟨hc, hkinds⟩ := List.nodup_cons.1 hkinds
    have hnothing (h : landed w'.calls = landed w.calls) :
        ∃ pulled, landed w'.calls = landed w.calls ++ pulled ∧
          pulled <+: deletions kubelet spec w.store (c :: cs) :=
      ⟨[], h.trans (List.append_nil _).symm, List.nil_prefix⟩
    rcases runIn_bind_eq.1 hrun with ⟨e, hfirst, rfl⟩ | ⟨first, m₁, w₁, hfirst, hnext⟩
    · rcases landed_deleteIfExists hfirst with ⟨-, hnone⟩ | ⟨found, -, hok, -⟩
      · exact hnothing hnone
      · cases hok
    · rcases landed_deleteIfExists hfirst with ⟨⟨e, hfailed⟩, -⟩ | ⟨found, hread, -, hlanded, hstore⟩
      · cases hfailed
      have hrest : ∃ r₂ m₂, runIn x (deleteAll kubelet spec cs) m₁ w₁ = ((r₂, m₂), w') := by
        rcases runIn_bind_eq.1 hnext with ⟨e, hstop, -⟩ | ⟨rest, m₂, w₂, hrest, hdone⟩
        · exact ⟨_, _, hstop⟩
        · cases hdone
          exact ⟨_, _, hrest⟩
      obtain ⟨r₂, m₂, hrest⟩ := hrest
      obtain ⟨pulled, hpulled, hsub⟩ := ih hkinds hrest
      have hsame : deletions kubelet spec w₁.store cs = deletions kubelet spec w.store cs := by
        refine deletions_congr fun d hd => ?_
        rw [hstore]
        refine get?_replay_deletionOf hread fun hkind => ?_
        exact hc (List.mem_map.2 ⟨d, hd, hkind.symm⟩)
      refine ⟨deletionOf found ++ pulled, ?_, ?_⟩
      · rw [hpulled, hlanded, List.append_assoc]
      · rw [deletions, hread]
        exact (List.prefix_append_right_inj _).2 (hsame ▸ hsub)

/-! ## The enforcer -/

/-- The deletions of the two webhooks, as far as these are stored and can be read. -/
def webhookDeletions (kubelet : String) (spec : Agent.Spec) (t : Table) : List Call :=
  deletions kubelet spec t webhooks

theorem webhookDeletions_congr (h : ∀ p : Place, p.kind ∈ webhookKinds → u.get? p = t.get? p) :
    webhookDeletions kubelet spec u = webhookDeletions kubelet spec t := by
  have hkind : ∀ c ∈ webhooks, c.kind ∈ webhookKinds := by decide
  exact deletions_congr fun c hc => h (c.place spec) (hkind c hc)

/-- What follows a failed step of the enforcer fails too, and lands no more than
deletions of the webhooks. -/
theorem landed_pullWebhooks (x : Setting) (kubelet : String) (spec : Agent.Spec) (e : Error)
    (m : Memory) (w : Scene) :
    ∃ e' m' w', runIn x (deleteAll kubelet spec webhooks >>= fun _ => (throw e : Pass Bool)) m w
        = ((.error e', m'), w') ∧
      ∃ pulled, landed w'.calls = landed w.calls ++ pulled ∧
        pulled <+: webhookDeletions kubelet spec w.store := by
  rw [runIn_bind]
  rcases hrun : runIn x (deleteAll kubelet spec webhooks) m w with ⟨⟨e' | changed, m₁⟩, w₁⟩
  · exact ⟨e', m₁, w₁, rfl, landed_deleteAll (by decide) hrun⟩
  · exact ⟨e, m₁, w₁, rfl, landed_deleteAll (by decide) hrun⟩

/-- Bringing the enforcer to the spec goes as it would, or fails with deletions of
the webhooks for its last writes. -/
theorem cutShort_applyEnforcer (x : Setting) (s : Surroundings) (spec : Agent.Spec)
    (opts : ApplyOptions) (m : Memory) (w : Scene) :
    CutShort (webhookDeletions s.kubelet spec w.store) (runIn x (applyEnforcer s spec opts) m w)
      (runIn x.calm (applyEnforcer s spec opts) m w) := by
  have hlog : (runIn x.calm (enforcerSteps s spec opts) m w).2.calls <+:
      (runIn x.calm (applyEnforcer s spec opts) m w).2.calls := by
    rw [runIn_applyEnforcer]
    rcases runIn x.calm (enforcerSteps s spec opts) m w with ⟨⟨e | objects, m₁⟩, w₁⟩
    · exact calls_isPrefix_runIn ..
    · exact calls_isPrefix_runIn ..
  have hsteps : CutShort [] (runIn x (enforcerSteps s spec opts) m w)
      (runIn x.calm (enforcerSteps s spec opts) m w) :=
    (plain_enforcerSteps (b := false) rfl).cutShort m w
  rcases hsteps with hsame | ⟨⟨e, herror⟩, done, pulled, hlanded, hdone, hnone⟩
  · rw [runIn_applyEnforcer, runIn_applyEnforcer, ← hsame]
    rcases runIn x (enforcerSteps s spec opts) m w with ⟨⟨e | objects, m₁⟩, w₁⟩
    · have hplain : Plain spec opts.setOwner false
          (deleteAll s.kubelet spec webhooks >>= fun _ => throw e) id := plain_pullWebhooks e id
      exact hplain.cutShort m₁ w₁
    · exact (plain_enforcerWebhooks (b := false) rfl objects).cutShort m₁ w₁
  · cases List.prefix_nil.1 hnone
    rw [List.append_nil] at hlanded
    rcases hrun : runIn x (enforcerSteps s spec opts) m w with ⟨⟨e' | objects, m₁⟩, w₁⟩ <;>
      rw [hrun] at herror hlanded
    · obtain ⟨e'', m₂, w₂, hpull, pulled, hpulled, hsub⟩ :=
        landed_pullWebhooks x s.kubelet spec e' m₁ w₁
      have hspared : webhookDeletions s.kubelet spec w₁.store
          = webhookDeletions s.kubelet spec w.store :=
        webhookDeletions_congr fun p hp => spares_enforcerSteps.same hrun p hp
      have hfailed : runIn x (applyEnforcer s spec opts) m w = ((.error e'', m₂), w₂) := by
        rw [runIn_applyEnforcer, hrun]
        exact hpull
      rw [hfailed]
      refine .inr ⟨⟨e'', rfl⟩, done, pulled, ?_, hdone.trans (landed_isPrefix hlog), hspared ▸ hsub⟩
      rw [hpulled, ← hlanded]
    · cases herror

/-! ## The whole dataplane -/

variable {registry : RegistryCredentials} {setOwner : Option OwnerSetter}

theorem cutShort_applyKnown :
    CutShort (webhookDeletions kubelet spec w.store)
      (runIn x (applyKnown kubelet spec registry setOwner) m w)
      (runIn x.calm (applyKnown kubelet spec registry setOwner) m w) := by
  have hcore : Plain spec setOwner false
      (applyAll { kubelet, registry := some registry } spec { setOwner } coreComponents)
      fun changed => false || changed := plain_applyAll rfl
  unfold applyKnown
  refine (hcore.cutShort m w).bind fun core m₁ w₁ hrun => ?_
  have hspared : webhookDeletions kubelet spec w.store = webhookDeletions kubelet spec w₁.store :=
    webhookDeletions_congr fun p hp => ((spares_applyAll (by decide)).same hrun p hp).symm
  rw [hspared]
  let s : Surroundings := { kubelet, registry := some registry }
  refine (cutShort_applyEnforcer x s spec { setOwner } m₁ w₁).bind fun enforcer m₂ w₂ _ => ?_
  exact (plain_applyLater rfl).cutShort m₂ w₂

/-- The kubelet version that a pass goes by. -/
def Setting.version (x : Setting) (m : Memory) : Except Error String :=
  match m.kubelet with
  | some version => .ok version
  | none => x.kubelet

theorem runIn_kubeletVersion_eq {r : Except Error String}
    (h : runIn x kubeletVersion m w = ((r, m'), w')) : r = x.version m ∧ w' = w := by
  refine ⟨?_, runIn_kubeletVersion_scene h⟩
  unfold Setting.version
  cases hm : m.kubelet with
  | some version =>
    rw [runIn_kubeletVersion_of_known hm] at h
    cases h
    rfl
  | none =>
    rw [runIn_kubeletVersion_of_unknown hm] at h
    cases hx : x.kubelet <;> rw [hx] at h <;> cases h <;> rfl

/-- The deletions of the webhooks that a pass can end with. -/
def Setting.withdrawals (x : Setting) (m : Memory) (spec : Agent.Spec) (t : Table) : List Call :=
  match x.version m with
  | .ok kubelet => webhookDeletions kubelet spec t
  | .error _ => []

theorem cutShort_applyDesiredState :
    CutShort (x.withdrawals m spec w.store) (runIn x (applyDesiredState spec registry setOwner) m w)
      (runIn x.calm (applyDesiredState spec registry setOwner) m w) := by
  rw [applyDesiredState_eq]
  refine cutShort_kubeletVersion.bind fun kubelet m₁ w₁ hrun => ?_
  obtain ⟨hversion, rfl⟩ := runIn_kubeletVersion_eq hrun
  rw [Setting.withdrawals, ← hversion]
  exact cutShort_applyKnown

/-- **A pass that fails is a first part of one that does not.** However the calls of
a pass fail, over whatever store, the writes that land are the first ones of those
that land in the same pass against the same store without failures, followed by
nothing but deletions of the two webhooks. -/
theorem landed_applyDesiredState (x : Setting) (spec : Agent.Spec) (registry : RegistryCredentials)
    (setOwner : Option OwnerSetter) (m : Memory) (t : Table) :
    ∃ done pulled,
      landed (runIn x (applyDesiredState spec registry setOwner) m ⟨t, []⟩).2.calls
        = done ++ pulled ∧
      done <+: landed (runIn x.calm (applyDesiredState spec registry setOwner) m ⟨t, []⟩).2.calls ∧
      pulled <+: x.withdrawals m spec t := by
  have hcut : CutShort (x.withdrawals m spec t)
      (runIn x (applyDesiredState spec registry setOwner) m ⟨t, []⟩)
      (runIn x.calm (applyDesiredState spec registry setOwner) m ⟨t, []⟩) :=
    cutShort_applyDesiredState
  rcases hcut with hsame | ⟨-, hlanded⟩
  · refine ⟨_, [], (List.append_nil _).symm, ?_, List.nil_prefix⟩
    rw [hsame]
  · exact hlanded

end AgentOperator.Dataplane
