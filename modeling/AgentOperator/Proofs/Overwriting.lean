import AgentOperator.Proofs.Mutate

/-!
AgentOperator.Proofs.Overwriting — what is written over what an earlier spec
has left.

Much of what is stored is kept when it looks as it should: an environment with
the same variables, a list with as many elements, a selector that says the same.
Each lemma here takes what one spec writes where nothing was, and shows that
another spec leaves of it only what it would have written itself.
-/

namespace AgentOperator

/-! ## Maps -/

theorem Entries.find?_reverse {V : Type u} {es : List (String × V)} (h : Entries.Sorted es)
    (k : String) :
    (es.reverse.find? fun e => decide (e.1 = k)).map (·.2) = Entries.find? k es := by
  cases hfind : Entries.find? k es with
  | none =>
    rw [Option.map_eq_none_iff, List.find?_eq_none]
    rintro ⟨k', v⟩ he hk
    rw [List.mem_reverse] at he
    have hk' : k' = k := by simpa using hk
    subst hk'
    rw [Entries.find?_of_mem h he] at hfind
    cases hfind
  | some v =>
    have hmem : (k, v) ∈ es.reverse := List.mem_reverse.2 (Entries.find?_eq_some hfind)
    cases hlast : es.reverse.find? fun e => decide (e.1 = k) with
    | none => simpa using List.find?_eq_none.1 hlast _ hmem
    | some e =>
      obtain ⟨k', v'⟩ := e
      have hk' : k' = k := by simpa using List.find?_some hlast
      subst hk'
      have hmem' := List.mem_reverse.1 (List.mem_of_find?_eq_some hlast)
      rw [Entries.find?_of_mem h hmem'] at hfind
      simpa using hfind

/-- Of an entry in both maps the one on top counts. -/
theorem Dict.get?_overlay (base top : Dict String) (k : String) :
    (base.overlay top).get? k = (top.get? k).or (base.get? k) := by
  rw [Dict.overlay, Workload.get?_foldl_insert, Entries.find?_reverse top.sorted]
  rfl

theorem Dict.eq_empty_of_isEmpty {V : Type u} {d : Dict V} (h : d.isEmpty) : d = ∅ :=
  Dict.ext_entries (List.isEmpty_iff.1 h)

/-- A map that has as many entries as another, all of them in the other, is the
other. -/
theorem Dict.eq_of_subset {V : Type u} {a b : Dict V} (hsize : a.size = b.size)
    (h : ∀ k v, a.get? k = some v → b.get? k = some v) : a = b := by
  have hsub : a.entries ⊆ b.entries := fun (k, v) he =>
    Entries.find?_eq_some (h k v (Entries.find?_of_mem a.sorted he))
  have hnodup : a.entries.Nodup := by
    refine a.sorted.imp fun {e f} hlt heq => ?_
    subst heq
    exact String.lt_irrefl _ hlt
  have hperm := (hnodup.subperm hsub).perm_of_length_le (Nat.le_of_eq hsize.symm)
  refine Dict.ext_get? fun k => ?_
  cases hb : b.get? k with
  | none =>
    cases ha : a.get? k with
    | none => rfl
    | some v => rw [h k v ha] at hb; cases hb
  | some v =>
    exact Entries.find?_of_mem a.sorted (hperm.symm.subset (Entries.find?_eq_some hb))

end AgentOperator

/-! ## Named lists -/

namespace AgentOperator.Keyed

variable {α : Type u} {N : Naming α}

@[simp] theorem getD_unlessEmpty (xs : List α) : (unlessEmpty xs).getD [] = xs := by
  cases xs <;> rfl

/-- Entries of other names pass over the first element. -/
theorem writeAll_cons_of_ne {es : List (Entry N)} {x : α} (h : N.key x ∉ es.map (·.name))
    (xs : List α) : writeAll es (x :: xs) = x :: writeAll es xs := by
  induction es generalizing xs with
  | nil => rfl
  | cons e es ih =>
    simp only [List.map_cons, List.mem_cons, not_or] at h
    have hwrite : e.write (x :: xs) = x :: e.write xs := by
      simp [Entry.write, upsert, Naming.test, h.1]
    simp only [writeAll, List.foldl_cons, hwrite] at ih ⊢
    exact ih h.2 _

/-- What is written where nothing was. -/
theorem writeAll_nil {es : List (Entry N)} (h : (es.map (·.name)).Nodup) :
    writeAll es [] = es.map fun e => e.change (N.fresh e.name) := by
  induction es with
  | nil => rfl
  | cons e es ih =>
    simp only [List.map_cons, List.nodup_cons] at h
    have hkey : N.key (e.change (N.fresh e.name)) ∉ es.map (·.name) := by
      rw [e.key_change, N.key_fresh]
      exact h.1
    have hfirst : writeAll (e :: es) [] = writeAll es [e.change (N.fresh e.name)] := rfl
    rw [hfirst, writeAll_cons_of_ne hkey, ih h.2, List.map_cons]

/-- What is settled where nothing was. -/
theorem settle_nil {es : List (Entry N)} (h : (es.map (·.name)).Nodup) :
    settle es [] = es.map fun e => e.change (N.fresh e.name) := by
  rw [settle, ite_self, writeAll_nil h]

/-- An entry that leaves nothing of what another of its name has written. -/
def Entry.Covers (e d : Entry N) : Prop :=
  d.name = e.name ∧ e.change (d.change (N.fresh d.name)) = e.change (N.fresh e.name)

/-- Entries written over others that they cover, one by one. -/
theorem writeAll_over {ds es : List (Entry N)} (hes : (es.map (·.name)).Nodup)
    (h : List.Forall₂ (fun d e => e.Covers d) ds es) :
    writeAll es (ds.map fun d => d.change (N.fresh d.name))
      = es.map fun e => e.change (N.fresh e.name) := by
  induction h with
  | nil => rfl
  | @cons d e ds es hcover _ ih =>
    simp only [List.map_cons, List.nodup_cons] at hes
    obtain ⟨hname, hchange⟩ := hcover
    have hkey : N.key (d.change (N.fresh d.name)) = e.name := by
      rw [d.key_change, N.key_fresh, hname]
    have hfirst : e.write (d.change (N.fresh d.name) :: ds.map fun d => d.change (N.fresh d.name))
        = e.change (N.fresh e.name) :: ds.map fun d => d.change (N.fresh d.name) := by
      simp [Entry.write, upsert, Naming.test, hkey, hchange]
    have hkept : N.key (e.change (N.fresh e.name)) ∉ es.map (·.name) := by
      rw [e.key_change, N.key_fresh]
      exact hes.1
    rw [List.map_cons, List.map_cons]
    show writeAll es (e.write _) = _
    rw [hfirst, writeAll_cons_of_ne hkept, ih hes.2]

/-- Of plans that cover each other as soon as they are as long, nothing of the
first is left by the second. -/
theorem settle_over {ds es : List (Entry N)} (hds : (ds.map (·.name)).Nodup)
    (hes : (es.map (·.name)).Nodup)
    (h : ds.length = es.length → List.Forall₂ (fun d e => e.Covers d) ds es) :
    settle es (settle ds []) = settle es [] := by
  rw [settle_nil hds, settle_nil hes]
  by_cases hlen : ds.length = es.length
  · rw [settle_of_length (by rw [List.length_map, hlen]), writeAll_over hes (h hlen)]
  · rw [settle_of_length_ne (by rwa [List.length_map]), writeAll_nil hes]

end AgentOperator.Keyed

namespace AgentOperator.Workload

open Kube (EnvVar ResourceFieldSelector)
open Dataplane

/-! ## Environments -/

/-- A variable that says no more than which resource it shows, if it shows
one. -/
def Plain (v : EnvVar) : Prop :=
  ∀ r : ResourceFieldSelector, v.valueFrom.bind (·.resourceFieldRef) = some r →
    v = { v with
      value := none
      valueFrom := some { resourceFieldRef := some { r with divisor := none } } }

/-- An environment of plain variables, each under its own name. -/
structure Env.Proper (e : Env) : Prop where
  named : ∀ k v, e.vars.get? k = some v → v.name = k
  plain : ∀ k v, e.vars.get? k = some v → Plain v

/-- The keys that the dataplane's config map has under every spec. -/
def configKeys : List String :=
  [accountKey, clusterKey, agentVersionKey, namespaceKey, apiSchemeKey, apiHostKey, apiPortKey,
    apiAdapterKey, tlsSkipVerifyKey, tlsRootCAsPathKey, rootCAsFile]

/-- What a variable of a source can be. -/
inductive EnvSource.Form (s : EnvSource) : EnvVar → Prop where
  | plain (name text : String) : Form s (plainVar name text)
  | token (name secret : String) : Form s (tokenVar name secret)
  | field (name path version : String) : Form s (fieldVar name path version)
  | resource (name container amount : String) : Form s (resourceVar name container amount)
  | configMap (name key : String) (h : key ∈ configKeys ∨ s = .configMap name key) :
    Form s (configMapVar name key)

theorem form_of_mem_vars {s : EnvSource} {v : EnvVar} (h : v ∈ s.vars) : s.Form v := by
  have hknown (s : EnvSource) (name : String) {key : String} (hkey : key ∈ configKeys) :
      s.Form (configMapVar name key) := .configMap name key (.inl hkey)
  have hgateway (s : EnvSource) : ∀ v ∈ gatewayTlsVars, s.Form v := by
    simp only [gatewayTlsVars, List.mem_cons, List.not_mem_nil, or_false]
    rintro v (rfl | rfl) <;> exact hknown s _ (by decide)
  cases s with
  | user vars =>
    obtain ⟨⟨name, text⟩, -, rfl⟩ := List.mem_map.1 h
    exact .plain name text
  | eventsGateway g =>
    simp only [EnvSource.vars, List.mem_cons, List.not_mem_nil, or_false] at h
    rcases h with rfl | rfl <;> exact .plain _ _
  | gatewayTls => exact hgateway _ v h
  | value name text => rw [List.mem_singleton.1 h]; exact .plain name text
  | resource name container amount =>
    rw [List.mem_singleton.1 h]
    exact .resource name container amount
  | field name path version => rw [List.mem_singleton.1 h]; exact .field name path version
  | token name secret => rw [List.mem_singleton.1 h]; exact .token name secret
  | configMap name key => rw [List.mem_singleton.1 h]; exact .configMap name key (.inr rfl)
  | common secret =>
    simp only [EnvSource.vars, commonVars, List.mem_append, List.mem_cons, List.not_mem_nil,
      or_false] at h
    rcases h with (rfl | rfl | rfl | rfl | rfl | rfl | rfl | rfl) | h
    · exact .token _ _
    all_goals first | exact hknown _ _ (by decide) | exact hgateway _ v h
  | proxy p =>
    simp only [EnvSource.vars, proxyVars] at h
    split at h
    · cases h
    · simp only [List.mem_append, Option.mem_toList, Option.map_eq_some_iff] at h
      rcases h with (⟨text, -, rfl⟩ | ⟨text, -, rfl⟩) | h
      · exact .plain _ _
      · exact .plain _ _
      · split at h
        · cases h
        · rw [List.mem_singleton.1 h]; exact .plain _ _

theorem plain_of_mem_vars {s : EnvSource} {v : EnvVar} (h : v ∈ s.vars) : Plain v := by
  cases form_of_mem_vars h with
  | resource name container amount =>
    intro r hr
    cases hr
    rfl
  | _ => exact fun r hr => by cases hr

theorem Env.Proper.write {e : Env} (he : e.Proper) {v : EnvVar} (hv : Plain v) :
    (e.write v).Proper where
  named k w h := by
    rw [Env.write, Dict.get?_insert] at h
    split at h
    · rename_i hk
      cases h
      exact hk
    · exact he.named k w h
  plain k w h := by
    rw [Env.write, Dict.get?_insert] at h
    split at h
    · cases h
      exact hv
    · exact he.plain k w h

theorem Env.Proper.foldl_write {e : Env} (he : e.Proper) {vs : List EnvVar}
    (h : ∀ v ∈ vs, Plain v) : (vs.foldl Env.write e).Proper := by
  induction vs generalizing e with
  | nil => exact he
  | cons v vs ih =>
    exact ih (he.write (h v (List.mem_cons_self ..))) fun w hw => h w (List.mem_cons_of_mem _ hw)

theorem Env.proper_ofSources (sources : List EnvSource) : (Env.ofSources sources).Proper := by
  have hempty : Env.empty.Proper :=
    { named := fun _ _ h => by cases h
      plain := fun _ _ h => by cases h }
  have hall : ∀ e : Env, e.Proper → (sources.foldl Env.add e).Proper := by
    induction sources with
    | nil => exact fun e he => he
    | cons s sources ih =>
      exact fun e he => ih _ (he.foldl_write fun v hv => plain_of_mem_vars hv)
  exact hall _ hempty

/-- Plain variables that are the same but for the divisor are the same. -/
theorem eq_of_sameVar {v w : EnvVar} (hv : Plain v) (hw : Plain w) (hname : v.name = w.name)
    (h : Env.sameVar v w = true) : v = w := by
  unfold Env.sameVar at h
  split at h
  · rename_i d hd
    split at h
    · rename_i a ha
      simp only [Bool.and_eq_true, decide_eq_true_eq] at h
      rw [hv a ha, hw d hd, hname, h.1, h.2]
    · cases h
  · exact of_decide_eq_true h

/-- A container that has all variables of a proper environment, as another
proper one has built them, has been built by the same. -/
theorem Env.eq_of_matchesVars {d e : Env} (hd : d.Proper) (he : e.Proper)
    (h : e.matchesVars d.build = true) : d = e := by
  simp only [Env.matchesVars, Bool.and_eq_true, decide_eq_true_eq, List.all_eq_true] at h
  obtain ⟨hlen, hall⟩ := h
  have hsize : d.vars.size = e.vars.size := by
    rw [← hlen, Env.build, Dict.values, List.length_map]
    rfl
  have hvars : d.vars = e.vars := by
    refine Dict.eq_of_subset hsize fun k v hv => ?_
    have hmem : v ∈ d.build := List.mem_map.2 ⟨(k, v), Entries.find?_eq_some hv, rfl⟩
    have hfound := hall v hmem
    rw [hd.named k v hv] at hfound
    cases hw : e.vars.get? k with
    | none => rw [hw] at hfound; cases hfound
    | some w =>
      rw [hw] at hfound
      have hname : v.name = w.name := (hd.named k v hv).trans (he.named k w hw).symm
      rw [eq_of_sameVar (hd.plain k v hv) (he.plain k w hw) hname hfound]
  cases d
  cases e
  cases hvars
  rfl

theorem settledEnv_none (e : Env) : settledEnv e none = Keyed.unlessEmpty e.build := by
  unfold settledEnv
  split
  · rename_i h
    simp only [Env.matchesVars, Option.getD_none, List.length_nil, List.all_nil, Bool.and_true,
      decide_eq_true_eq] at h
    have hbuild : e.build = [] := by
      rw [Env.build, Dict.values, List.eq_nil_of_length_eq_zero h.symm]
      rfl
    rw [hbuild]
    rfl
  · rfl

theorem settledEnv_over {d e : Env} (hd : d.Proper) (he : e.Proper) :
    settledEnv e (settledEnv d none) = settledEnv e none := by
  rw [settledEnv_none d, settledEnv_none e, settledEnv, Keyed.getD_unlessEmpty]
  split
  · rename_i h
    rw [Env.eq_of_matchesVars hd he h]
  · rfl

/-! ## Probes and ports -/

theorem httpProbe_over (path path' : String) (probes probes' : Agent.HttpProbes) :
    httpProbe path probes (httpProbe path' probes' {}) = httpProbe path probes {} := by
  simp [httpProbe, withTiming]

theorem fileProbe_over (path path' : String) (timing timing' : Agent.ProbeTiming) :
    fileProbe path timing (fileProbe path' timing' {}) = fileProbe path timing {} := by
  simp [fileProbe, withTiming]

theorem settledPort_over (name : String) (port port' : Int32) :
    settledPort name port (some [settledPort name port' none]) = settledPort name port none := by
  simp [settledPort, keptPort, namedPort]

end AgentOperator.Workload

namespace AgentOperator.Dataplane

open Workload

/-! ## Mounts and volumes -/

theorem MountPlan.covers {m n : MountPlan} (h : n.volume = m.volume) :
    m.entry.Covers n.entry := by
  obtain ⟨volume, path, readOnly⟩ := m
  cases h
  exact ⟨rfl, rfl⟩

theorem settledMounts_over {plans plans' : List MountPlan}
    (hplans : (plans.map (·.volume)).Nodup) (hplans' : (plans'.map (·.volume)).Nodup)
    (h : plans'.length = plans.length → plans'.map (·.volume) = plans.map (·.volume)) :
    settledMounts plans (some (settledMounts plans' none)) = settledMounts plans none := by
  refine Keyed.settle_over ?_ ?_ fun hlen => ?_
  · rwa [MountPlan.map_entry_name]
  · rwa [MountPlan.map_entry_name]
  · rw [List.length_map, List.length_map] at hlen
    have hnames : List.Forall₂ (fun n m : MountPlan => n.volume = m.volume) plans' plans := by
      have hall := List.forall₂_eq_eq_eq.symm ▸ h hlen
      rwa [List.forall₂_map_left_iff, List.forall₂_map_right_iff] at hall
    rw [List.forall₂_map_left_iff, List.forall₂_map_right_iff]
    exact hnames.imp fun n m => MountPlan.covers

/-- A volume without what its source is. -/
def VolumePlan.shape : VolumePlan → VolumePlan
  | .secret name _ => .secret name ""
  | .hostPath name _ => .hostPath name ""
  | .rootCAs => .rootCAs

theorem VolumePlan.covers {p q : VolumePlan} (h : q.shape = p.shape) : p.entry.Covers q.entry := by
  cases p <;> cases q <;> simp only [shape, secret.injEq, hostPath.injEq, and_true,
    reduceCtorEq] at h
  · subst h
    exact ⟨rfl, rfl⟩
  · subst h
    exact ⟨rfl, rfl⟩
  · exact ⟨rfl, VolumePlan.rootCAs.entry.change_change _⟩

theorem settledVolumes_over {plans plans' : List VolumePlan}
    (hplans : (plans.map (·.name)).Nodup) (hplans' : (plans'.map (·.name)).Nodup)
    (h : plans'.length = plans.length → plans'.map (·.shape) = plans.map (·.shape)) :
    settledVolumes plans (some (settledVolumes plans' none)) = settledVolumes plans none := by
  refine Keyed.settle_over ?_ ?_ fun hlen => ?_
  · rwa [VolumePlan.map_entry_name]
  · rwa [VolumePlan.map_entry_name]
  · rw [List.length_map, List.length_map] at hlen
    have hshapes : List.Forall₂ (fun q p : VolumePlan => q.shape = p.shape) plans' plans := by
      have hall := List.forall₂_eq_eq_eq.symm ▸ h hlen
      rwa [List.forall₂_map_left_iff, List.forall₂_map_right_iff] at hall
    rw [List.forall₂_map_left_iff, List.forall₂_map_right_iff]
    exact hshapes.imp fun q p => VolumePlan.covers

/-! ## Webhook entries -/

/-- The selector tells its two requirements apart by their keys, so one that
carries the other's has the same excluded namespaces. -/
theorem settledNamespaces_over (excluded excluded' : List String) :
    settledNamespaces excluded (settledNamespaces excluded' none)
      = settledNamespaces excluded none := by
  have hnone : ∀ es, settledNamespaces es none
      = some { matchExpressions := some (reviewedNamespaces es) } := fun _ => rfl
  rw [hnone, hnone, settledNamespaces]
  split
  · rename_i h
    have hsame : excluded = excluded' := by
      simpa [reviewedNamespaces, notIn] using h
    rw [hsame]
  · rfl

end AgentOperator.Dataplane
