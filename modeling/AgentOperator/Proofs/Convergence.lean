import AgentOperator.Proofs.Settling

/-!
AgentOperator.Proofs.Convergence — a dataplane that was brought to the spec is
left alone by the next pass.

Every part of a pass settles, and so does the whole (`settles_applyDesiredState`).
What that needs of the store, that it is orderly, holds of every store that
passes and cleanups lead to from the empty one, whatever specs they were given,
whichever calls failed, and whatever others wrote into the status of deployments
in between (`Reached.sound`).
-/

namespace AgentOperator.Dataplane

open Kube (Deployment Object ObjectKey)
open Pass
open Store (Call Place Table placeOf)

variable {α : Type} {x y : Setting} {kubelet : String} {spec : Agent.Spec} {cs : List Component}
  {s : Surroundings} {opts : ApplyOptions}

/-! ## The enforcer -/

theorem settles_orPullWebhooks {p q : Pass α} {R : α → α → Prop} (hy : y.Readable)
    (h : Settles x y kubelet spec cs p q R) :
    Settles x y kubelet spec cs (orPullWebhooks kubelet spec p) (orPullWebhooks kubelet spec q)
      R := by
  have hpull : Settles x y kubelet spec webhooks (deleteAll kubelet spec webhooks)
      (deleteAll kubelet spec webhooks) fun _ b => b = false := settles_deleteAll hy (by decide)
  have hdisjoint : ∀ c ∈ webhooks, c ∉ ([] : List Component) := fun c _ => List.not_mem_nil
  exact h.tryCatch fun e => hpull.bind (fun _ _ _ => .throw e) hdisjoint

theorem settles_applyWebhooks (hkubelet : s.kubelet = kubelet) (hopts : opts.Proper)
    (hy : y.Readable) (stored : Dict Bytes) :
    Settles x y kubelet spec webhooks (applyWebhooks s spec opts stored)
      (applyWebhooks s spec opts stored) fun _ b => b = false := by
  subst hkubelet
  unfold applyWebhooks
  refine Settles.nil_bind (settles_ofExcept _) ?_
  rintro _ tls ⟨rfl, -⟩
  dsimp only
  refine Settles.bind (settles_applied (s := { s with tls := some tls }) rfl hopts
    (fun h => by cases h) hy) ?_ (by decide)
  rintro validating _ rfl
  split
  · simp only [map_eq_pure_bind, bind_assoc, pure_bind]
    refine (settles_applied (c := .mutatingWebhook) (s := { s with tls := some tls }) rfl hopts
      (fun h => by cases h) hy).bind_pure ?_
    rintro mutating _ rfl
    rfl
  · refine (settles_deleteAll hy (by decide)).bind_pure ?_
    rintro _ _ rfl
    rfl

theorem settles_applyEnforcer (hkubelet : s.kubelet = kubelet) (hopts : opts.Proper)
    (hy : y.Readable) :
    Settles x y kubelet spec
      [.enforcerTls, .enforcerService, .enforcer, .validatingWebhook, .mutatingWebhook]
      (applyEnforcer s spec opts) (applyEnforcer s spec opts) fun _ b => b = false := by
  subst hkubelet
  have hguarded (c : Component) (opts : ApplyOptions) (hopts : opts.Proper)
      (honly : c = .enforcerTls → opts.createOnly = true) :
      Settles x y s.kubelet spec [c] (orPullWebhooks s.kubelet spec (applied c s spec opts))
        (orPullWebhooks s.kubelet spec (applied c s spec opts))
        fun a b => b = ⟨false, a.object⟩ :=
    settles_orPullWebhooks hy (settles_applied rfl hopts honly hy)
  unfold applyEnforcer
  dsimp only
  refine Settles.bind (hguarded .enforcerTls { opts with createOnly := true } hopts fun _ => rfl)
    ?_ (by decide)
  rintro secret _ rfl
  refine Settles.nil_bind (settles_ofExcept _) ?_
  rintro _ stored ⟨rfl, -⟩
  refine Settles.bind (hguarded .enforcerService opts hopts fun h => by cases h) ?_ (by decide)
  rintro service _ rfl
  refine Settles.bind (hguarded .enforcer opts hopts fun h => by cases h) ?_ (by decide)
  rintro deployment _ rfl
  refine Settles.nil_bind (settles_ofExcept _) ?_
  rintro _ ready ⟨rfl, -⟩
  split
  · refine (settles_deleteAll hy (by decide)).bind_pure ?_
    rintro _ _ rfl
    rfl
  · refine (settles_applyWebhooks rfl hopts hy _).bind_pure ?_
    rintro _ _ rfl
    rfl

/-! ## The whole dataplane -/

theorem settles_applyIf (wanted : Bool) (hkubelet : s.kubelet = kubelet) (hopts : opts.Proper)
    (hy : y.Readable) (hnodup : cs.Nodup) (htls : .enforcerTls ∉ cs) :
    Settles x y kubelet spec cs (applyIf wanted s spec opts cs) (applyIf wanted s spec opts cs)
      fun _ b => b = false := by
  subst hkubelet
  unfold applyIf
  split
  · exact settles_applyAll rfl hopts hy hnodup htls
  · exact settles_deleteAll hy hnodup

theorem settles_applyResolver (hkubelet : s.kubelet = kubelet) (hopts : opts.Proper)
    (hy : y.Readable) (hnodes : y.nodes = x.nodes) :
    Settles x y kubelet spec [.resolverService, .resolver] (applyResolver s spec opts)
      (applyResolver s spec opts) fun _ b => b = false := by
  subst hkubelet
  unfold applyResolver
  dsimp only
  split
  · refine Settles.nil_bind (settles_nodeCount hnodes) ?_
    rintro _ nodes rfl
    exact settles_applyAll (s := { s with nodes := some nodes }) rfl hopts hy (by decide) (by decide)
  · exact settles_deleteAll hy (by decide)

/-- Every pass over the whole dataplane settles, with or without webhooks. -/
theorem settles_applyDesiredState (registry : RegistryCredentials) {setOwner : Option OwnerSetter}
    (hopts : ApplyOptions.Proper { setOwner }) (hy : y.Readable) (hnodes : y.nodes = x.nodes) :
    Settles x y kubelet spec Component.all (applyDesiredState spec registry setOwner)
      (applyDesiredState spec registry setOwner) fun _ b => b = false := by
  have happly (wanted : Bool) (cs : List Component) (hnodup : cs.Nodup) (htls : .enforcerTls ∉ cs) :
      Settles x y kubelet spec cs
        (applyIf wanted { kubelet, registry := some registry } spec { setOwner } cs)
        (applyIf wanted { kubelet, registry := some registry } spec { setOwner } cs)
        fun _ b => b = false := settles_applyIf wanted rfl hopts hy hnodup htls
  unfold applyDesiredState
  refine Settles.nil_bind settles_kubeletVersion ?_
  rintro _ kubelet ⟨rfl, rfl⟩
  dsimp only
  refine Settles.bind (happly true [.configMap, .registrySecret, .priorityClass, .monitor]
    (by decide) (by decide)) ?_ (by decide)
  rintro core _ rfl
  refine Settles.bind (settles_applyEnforcer (s := { kubelet, registry := some registry }) rfl
    hopts hy) ?_ (by decide)
  rintro enforcer _ rfl
  refine Settles.bind (happly true [.stateReporter] (by decide) (by decide)) ?_ (by decide)
  rintro stateReporter _ rfl
  refine Settles.bind (settles_applyResolver (s := { kubelet, registry := some registry }) rfl
    hopts hy hnodes) ?_ (by decide)
  rintro resolver _ rfl
  refine Settles.bind (happly _ [.imageScanningReporterService, .imageScanningReporter]
    (by decide) (by decide)) ?_ (by decide)
  rintro reporter _ rfl
  refine (happly _ [.nodeAgent] (by decide) (by decide)).bind_pure ?_
  rintro nodeAgent _ rfl
  rfl

theorem settles_deleteClusterScoped (hy : y.Readable) :
    Settles x y kubelet spec [.validatingWebhook, .mutatingWebhook, .priorityClass]
      (deleteClusterScoped spec) (deleteClusterScoped spec) fun _ b => b = false := by
  unfold deleteClusterScoped
  refine Settles.nil_bind settles_kubeletVersion ?_
  rintro _ _ ⟨rfl, rfl⟩
  exact settles_deleteAll hy (by decide)

/-! ## Reached stores -/

/-- The stores that passes and cleanups lead to from the empty one, each with
what is remembered by then. Passes may be given anything, and any of their calls
may fail. -/
inductive Reached : Memory → Table → Prop where
  | empty (m : Memory) : Reached m {}
  | pass {m m' : Memory} {t : Table} {w' : Scene} (h : Reached m t) (x : Setting)
      (spec : Agent.Spec) (registry : RegistryCredentials) {setOwner : Option OwnerSetter}
      (hopts : ApplyOptions.Proper { setOwner }) {r : Except Error Bool}
      (hrun : runIn x (applyDesiredState spec registry setOwner) m ⟨t, []⟩ = ((r, m'), w')) :
      Reached m' w'.store
  | cleanup {m m' : Memory} {t : Table} {w' : Scene} (h : Reached m t) (x : Setting)
      (spec : Agent.Spec) {r : Except Error Bool}
      (hrun : runIn x (deleteClusterScoped spec) m ⟨t, []⟩ = ((r, m'), w')) : Reached m' w'.store
  /-- Another writer changes the status of a deployment. -/
  | edit {m : Memory} {t : Table} {p : Place} {i j : Json} (h : Reached m t)
      (hkind : p.kind = .deployment) (hj : t.get? p = some j) (hi : i.SameBeside "status" j) :
      Reached m (t.put p i)

/-- The store is orderly for the kubelet version that is remembered, and empty
as long as none is. -/
structure Sound (m : Memory) (t : Table) : Prop where
  orderly : ∀ kubelet, m.kubelet = some kubelet → Orderly kubelet t
  empty : m.kubelet = none → ∀ p, t.get? p = none

/-- Work that starts with the kubelet version does nothing before it is known,
and then goes on as if it had been known. -/
theorem Sound.known {m m' : Memory} {t : Table} {w' : Scene} {f : String → Pass α}
    {r : Except Error α} (h : Sound m t)
    (hrun : runIn x (kubeletVersion >>= f) m ⟨t, []⟩ = ((r, m'), w')) :
    (m' = m ∧ w'.store = t ∧ ∃ e, r = .error e) ∨
      ∃ kubelet m₁, m₁.kubelet = some kubelet ∧ Orderly kubelet t ∧
        runIn x (kubeletVersion >>= f) m₁ ⟨t, []⟩ = ((r, m'), w') := by
  cases hm : m.kubelet with
  | some kubelet => exact .inr ⟨kubelet, m, hm, h.orderly kubelet hm, hrun⟩
  | none =>
    rw [runIn_bind, runIn_kubeletVersion_of_unknown hm] at hrun
    cases hx : x.kubelet with
    | error e =>
      rw [hx] at hrun
      cases hrun
      exact .inl ⟨rfl, rfl, e, rfl⟩
    | ok kubelet =>
      rw [hx] at hrun
      refine .inr ⟨kubelet, { m with kubelet := some kubelet }, rfl, ?_, ?_⟩
      · exact orderly_empty (h.empty hm)
      · rw [runIn_bind, runIn_kubeletVersion_of_known rfl]
        exact hrun

/-- Work that settles once the kubelet version is known keeps the store sound. -/
theorem Sound.run {m m' : Memory} {t : Table} {w' : Scene} {f : String → Pass α}
    {r : Except Error α} {R : α → α → Prop} (h : Sound m t)
    (hsettles : ∀ kubelet, Settles x y kubelet spec cs (kubeletVersion >>= f)
      (kubeletVersion >>= f) R)
    (hrun : runIn x (kubeletVersion >>= f) m ⟨t, []⟩ = ((r, m'), w')) : Sound m' w'.store := by
  rcases h.known hrun with ⟨rfl, hstore, -⟩ | ⟨kubelet, m₁, hm₁, ht, hrun₁⟩
  · rw [hstore]
    exact h
  · have hleft := (hsettles kubelet).left hm₁ ht hrun₁
    refine ⟨?_, ?_⟩
    · intro version hversion
      cases hleft.known.symm.trans hversion
      exact hleft.orderly
    · intro hunknown
      cases hleft.known.symm.trans hunknown

theorem Setting.calm_readable (x : Setting) : x.calm.Readable := fun _ _ _ => rfl

/-- Whatever passes, cleanups and other writers do, the store stays sound. -/
theorem Reached.sound {m : Memory} {t : Table} (h : Reached m t) : Sound m t := by
  induction h with
  | empty m => exact ⟨fun _ _ => orderly_empty fun _ => rfl, fun _ _ => rfl⟩
  | pass h x spec registry hopts hrun ih =>
    exact ih.run (x := x) (y := x.calm)
      (fun _ => settles_applyDesiredState registry hopts x.calm_readable rfl) hrun
  | cleanup h x spec hrun ih =>
    exact ih.run (x := x) (y := x.calm)
      (fun _ => settles_deleteClusterScoped x.calm_readable) hrun
  | @edit m t p i j h hkind hj hi ih =>
    refine ⟨fun kubelet hm => ?_, fun hm => ?_⟩
    · have ht := ih.orderly kubelet hm
      exact ht.put ((ht p j hj).edit hkind hi)
    · rw [ih.empty hm p] at hj
      cases hj

/-- **A converged dataplane is left alone.** On every reached store, a pass that
succeeds is followed by one that succeeds, reports no change and makes no call
but readings, as long as these are answered and the number of nodes is the same. -/
theorem Reached.applyDesiredState_again {m m' : Memory} {t : Table} {w' : Scene} {changed : Bool}
    {registry : RegistryCredentials} {setOwner : Option OwnerSetter} (hreached : Reached m t)
    (hopts : ApplyOptions.Proper { setOwner })
    (hfirst : runIn x (applyDesiredState spec registry setOwner) m ⟨t, []⟩
      = ((.ok changed, m'), w')) (hy : y.Readable) (hnodes : y.nodes = x.nodes) :
    ∃ reads : List Made, (∀ made ∈ reads, made.call.isWrite = false) ∧
      runIn y (applyDesiredState spec registry setOwner) m' ⟨w'.store, []⟩
        = ((.ok false, m'), ⟨w'.store, reads⟩) := by
  rcases hreached.sound.known hfirst with ⟨-, -, e, hfailed⟩ | ⟨kubelet, m₁, hm₁, ht, hrun⟩
  · cases hfailed
  · have hleft := (settles_applyDesiredState registry hopts hy hnodes).left hm₁ ht hrun
    obtain ⟨b, rfl, hrests⟩ := hleft.rests changed rfl
    exact hrests m' ⟨w'.store, []⟩ hleft.known fun _ _ => rfl

set_option maxRecDepth 10000 in
/-- A first pass over an empty store succeeds, and a second one finds nothing to
do. -/
theorem applyDesiredState_again_empty :
    ∃ changed m' w', runIn .steady (applyDesiredState default ⟨"", ∅⟩ none) {} ⟨{}, []⟩
        = ((.ok changed, m'), w') ∧
      ∃ reads : List Made, (∀ made ∈ reads, made.call.isWrite = false) ∧
        runIn .steady (applyDesiredState default ⟨"", ∅⟩ none) m' ⟨w'.store, []⟩
          = ((.ok false, m'), ⟨w'.store, reads⟩) := by
  have hok : (runIn .steady (applyDesiredState default ⟨"", ∅⟩ none) {} ⟨{}, []⟩).1.1.toBool
      = true := by
    decide +kernel
  rcases hfirst : runIn .steady (applyDesiredState default ⟨"", ∅⟩ none) {} ⟨{}, []⟩
    with ⟨⟨_ | changed, m'⟩, w'⟩
  · rw [hfirst] at hok
    cases hok
  · refine ⟨changed, m', w', rfl, ?_⟩
    exact Reached.applyDesiredState_again (.empty {}) (fun _ h => by cases h) hfirst
      (fun _ _ _ => rfl) rfl

end AgentOperator.Dataplane
