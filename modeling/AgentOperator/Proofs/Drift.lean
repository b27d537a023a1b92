import AgentOperator.Proofs.Fresh
import Mathlib.Data.List.Nodup

/-!
AgentOperator.Proofs.Drift — lists that are left alone because they pass for the same set.

Variables of a container and pull secrets of a pod are compared in two steps: there are
to be as many as are wanted, and what is there is to be among the wanted ones (variables),
or the other way round (pull secrets). If no name repeats on the side that is looked
through, the two sides are the same set. If one does, something else may take the place of
the repetition, and drift is not seen: `env_repaired_iff` and `pullSecrets_repaired_iff`
say when.
-/

namespace AgentOperator.Kube

/-! ## Variables up to divisors -/

/-- The resource that a variable shows. -/
def EnvVar.resource? (v : EnvVar) : Option ResourceFieldSelector :=
  v.valueFrom.bind (·.resourceFieldRef)

/-- A variable without the divisor of the resource that it shows. -/
def EnvVar.undivided (v : EnvVar) : EnvVar :=
  { v with
    valueFrom := v.valueFrom.map fun source =>
      { source with
        resourceFieldRef := source.resourceFieldRef.map fun r => { r with divisor := none } } }

/-- A variable that shows a resource has no other value and no other source. -/
def EnvVar.Sole (v : EnvVar) : Prop :=
  ∀ r, v.resource? = some r → v.value = none ∧ v.valueFrom = some { resourceFieldRef := some r }

/-- Two variables show the same resource of the same container, or they are the same. -/
def EnvVar.Resembles (v d : EnvVar) : Prop :=
  v = d ∨ ∃ r r', v.resource? = some r ∧ d.resource? = some r' ∧
    r.containerName = r'.containerName ∧ r.resource = r'.resource

/-- The same variables in some order, up to divisors. -/
def EnvVar.Rearranged (actual desired : List EnvVar) : Prop :=
  (actual.map undivided).Perm (desired.map undivided)

@[simp] theorem EnvVar.undivided_name (v : EnvVar) : v.undivided.name = v.name := rfl

theorem EnvVar.resource?_undivided (v : EnvVar) :
    v.undivided.resource? = v.resource?.map fun r => { r with divisor := none } := by
  rcases v with ⟨name, value, _ | source⟩ <;> rfl

theorem EnvVar.undivided_of_resource?_eq_none {v : EnvVar} (h : v.resource? = none) :
    v.undivided = v := by
  rcases v with ⟨name, value, _ | ⟨configMap, field, resource, secret⟩⟩
  · rfl
  · cases (show resource = none from h)
    rfl

theorem EnvVar.resembles_of_undivided_eq {v d : EnvVar} (h : v.undivided = d.undivided) :
    v.Resembles d := by
  have hresource := congrArg resource? h
  rw [resource?_undivided, resource?_undivided] at hresource
  cases hv : v.resource? with
  | none =>
    rw [hv, Option.map_none, eq_comm, Option.map_eq_none_iff] at hresource
    rw [undivided_of_resource?_eq_none hv, undivided_of_resource?_eq_none hresource] at h
    exact .inl h
  | some r =>
    rw [hv, Option.map_some, eq_comm, Option.map_eq_some_iff] at hresource
    obtain ⟨r', hr', heq⟩ := hresource
    exact .inr ⟨r, r', hv, hr', (congrArg (·.containerName) heq).symm,
      (congrArg (·.resource) heq).symm⟩

/-- What is a plain variable up to the divisor shows a resource and nothing else, if it
shows one. -/
theorem EnvVar.sole_of_undivided_eq {v d : EnvVar} (hd : Workload.Plain d)
    (h : v.undivided = d.undivided) : v.Sole := by
  intro r hr
  obtain ⟨r', hr'⟩ : ∃ r', d.resource? = some r' := by
    have hresource := congrArg resource? h
    rw [resource?_undivided, resource?_undivided, hr, Option.map_some, eq_comm,
      Option.map_eq_some_iff] at hresource
    obtain ⟨r', hr', -⟩ := hresource
    exact ⟨r', hr'⟩
  rw [hd r' hr'] at h
  rcases v with ⟨name, value, _ | ⟨configMap, field, resource, secret⟩⟩
  · cases hr
  · cases (show resource = some r from hr)
    simp only [undivided, Option.map_some, mk.injEq, Option.some.injEq,
      EnvVarSource.mk.injEq] at h
    obtain ⟨-, hvalue, hmap, hfield, -, hsecret⟩ := h
    subst hmap hfield hsecret
    exact ⟨hvalue, rfl⟩

/-- A variable of which only the divisor may differ from a plain one is the plain one, up
to the divisor. -/
theorem EnvVar.Resembles.undivided_eq {v d : EnvVar} (h : v.Resembles d) (hv : v.Sole)
    (hd : Workload.Plain d) (hname : v.name = d.name) : v.undivided = d.undivided := by
  rcases h with rfl | ⟨r, r', hr, hr', hcontainer, hresource⟩
  · rfl
  · obtain ⟨hvalue, hsource⟩ := hv r hr
    rw [undivided, undivided, hd r' hr', hname, hvalue, hsource]
    simp [hcontainer, hresource]

end AgentOperator.Kube

namespace AgentOperator.Workload

open Kube (Container EnvVar LocalObjectReference PodSpec)

variable {e : Env} {v d : EnvVar} {vs : List EnvVar}

/-! ## Environments -/

theorem sameVar_iff : Env.sameVar v d = true ↔ v.Resembles d := by
  unfold Env.sameVar
  cases hd : d.valueFrom.bind (·.resourceFieldRef) with
  | none =>
    have hnone : d.resource? = none := hd
    simp [EnvVar.Resembles, hnone]
  | some r' =>
    have hsome : d.resource? = some r' := hd
    cases hv : v.valueFrom.bind (·.resourceFieldRef) with
    | none =>
      have hnone : v.resource? = none := hv
      have hne : v ≠ d := fun h => by simp [h, hsome] at hnone
      simp [EnvVar.Resembles, hnone, hne]
    | some r =>
      have hr : v.resource? = some r := hv
      simp only [EnvVar.Resembles, hr, hsome, Bool.and_eq_true, decide_eq_true_eq,
        Option.some.injEq, exists_and_left, exists_eq_left']
      refine ⟨.inr, ?_⟩
      rintro (rfl | h)
      · cases hr.symm.trans hsome
        exact ⟨rfl, rfl⟩
      · exact h

/-- Variables in the order of their names, no two with the same. -/
theorem Env.Proper.build_sorted (he : e.Proper) : e.build.Pairwise fun v w => v.name < w.name := by
  rw [Env.build, Dict.values, List.pairwise_map]
  refine e.vars.sorted.imp_of_mem fun {a b} ha hb hlt => ?_
  rwa [he.named a.1 a.2 (Entries.find?_of_mem e.vars.sorted ha),
    he.named b.1 b.2 (Entries.find?_of_mem e.vars.sorted hb)]

theorem Env.Proper.build_names_nodup (he : e.Proper) : (e.build.map (·.name)).Nodup := by
  refine List.pairwise_map.2 (he.build_sorted.imp fun {v w} hlt heq => ?_)
  rw [heq] at hlt
  exact String.lt_irrefl _ hlt

theorem Env.Proper.plain_of_mem_build (he : e.Proper) (hd : d ∈ e.build) : Plain d := by
  obtain ⟨k, hk⟩ := Env.mem_build.1 hd
  exact he.plain k d hk

/-- A list passes for the environment: it has as many variables, each of which resembles
the one of its name. -/
def Env.Passes (e : Env) (vs : List EnvVar) : Prop :=
  vs.length = e.build.length ∧ ∀ v ∈ vs, ∃ d ∈ e.build, v.name = d.name ∧ v.Resembles d

theorem Env.Proper.matchesVars_iff (he : e.Proper) : e.matchesVars vs = true ↔ e.Passes vs := by
  have hsize : e.build.length = e.vars.size := List.length_map ..
  simp only [Env.matchesVars, Env.Passes, hsize, Bool.and_eq_true, decide_eq_true_eq,
    List.all_eq_true, Option.any_eq_true]
  refine and_congr_right fun _ => forall₂_congr fun v _ => ?_
  constructor
  · rintro ⟨d, hd, hsame⟩
    exact ⟨d, Env.mem_build.2 ⟨_, hd⟩, (he.named _ d hd).symm, sameVar_iff.1 hsame⟩
  · rintro ⟨d, hd, hname, hsame⟩
    obtain ⟨k, hk⟩ := Env.mem_build.1 hd
    cases he.named k d hk
    exact ⟨d, hname ▸ hk, sameVar_iff.2 hsame⟩

/-- As long as no name repeats, a list that passes has all names of the environment. -/
theorem Env.Passes.names_perm (h : e.Passes vs) (hnodup : (vs.map (·.name)).Nodup) :
    (vs.map (·.name)).Perm (e.build.map (·.name)) := by
  have hsub : vs.map (·.name) ⊆ e.build.map (·.name) := by
    intro name hname
    obtain ⟨v, hv, rfl⟩ := List.mem_map.1 hname
    obtain ⟨d, hd, hvd, -⟩ := h.2 v hv
    exact List.mem_map.2 ⟨d, hd, hvd.symm⟩
  have hlen : (e.build.map (·.name)).length = (vs.map (·.name)).length := by
    rw [List.length_map, List.length_map, h.1]
  exact ((Keyed.length_and_subset_iff_perm hnodup).1 ⟨hlen, hsub⟩).symm

/-- Which lists are those of the environment: of the ones that pass those without
repetitions, in which what shows a resource does nothing else. -/
theorem Env.Proper.rearranged_iff (he : e.Proper) :
    EnvVar.Rearranged vs e.build
      ↔ e.Passes vs ∧ (vs.map (·.name)).Nodup ∧ ∀ v ∈ vs, v.Sole := by
  have hnames (ws : List EnvVar) : (ws.map EnvVar.undivided).map (·.name) = ws.map (·.name) := by
    rw [List.map_map]
    rfl
  constructor
  · intro hperm
    have hnamesPerm := hperm.map (·.name)
    rw [hnames, hnames] at hnamesPerm
    have hfound : ∀ v ∈ vs, ∃ d ∈ e.build, v.undivided = d.undivided := by
      intro v hv
      obtain ⟨d, hd, heq⟩ := List.mem_map.1 (hperm.mem_iff.1 (List.mem_map_of_mem hv))
      exact ⟨d, hd, heq.symm⟩
    have hlen := hperm.length_eq
    rw [List.length_map, List.length_map] at hlen
    refine ⟨⟨hlen, fun v hv => ?_⟩, hnamesPerm.nodup_iff.2 he.build_names_nodup, fun v hv => ?_⟩
    · obtain ⟨d, hd, heq⟩ := hfound v hv
      have hname : v.undivided.name = d.undivided.name := by rw [heq]
      exact ⟨d, hd, hname, EnvVar.resembles_of_undivided_eq heq⟩
    · obtain ⟨d, hd, heq⟩ := hfound v hv
      exact EnvVar.sole_of_undivided_eq (he.plain_of_mem_build hd) heq
  · rintro ⟨hpasses, hnodup, hsole⟩
    have hsub : vs.map EnvVar.undivided ⊆ e.build.map EnvVar.undivided := by
      intro w hw
      obtain ⟨v, hv, rfl⟩ := List.mem_map.1 hw
      obtain ⟨d, hd, hname, hsame⟩ := hpasses.2 v hv
      rw [hsame.undivided_eq (hsole v hv) (he.plain_of_mem_build hd) hname]
      exact List.mem_map_of_mem hd
    have hnodup' : (vs.map EnvVar.undivided).Nodup :=
      List.Nodup.of_map (fun v : EnvVar => v.name) ((hnames vs).symm ▸ hnodup)
    have hlen : (e.build.map EnvVar.undivided).length = (vs.map EnvVar.undivided).length := by
      rw [List.length_map, List.length_map, hpasses.1]
    exact ((Keyed.length_and_subset_iff_perm hnodup').1 ⟨hlen, hsub⟩).symm

/-- A list that passes for the environment without being a rearrangement of it: a name
repeats, in the place of one that is missing, or what shows a resource does more. -/
def Env.Deceived (e : Env) (vs : List EnvVar) : Prop :=
  e.Passes vs ∧ ¬ ((vs.map (·.name)).Nodup ∧ ∀ v ∈ vs, v.Sole)

/-- **Whether drift of an environment is repaired.** A container is left with the
variables of the environment, and is said to need no change just if it had them, unless the
environment is deceived by what is stored. -/
theorem env_repaired_iff (sources : List EnvSource) (c : Container) :
    let e := Env.ofSources sources
    let stored := c.env.getD []
    (EnvVar.Rearranged ((withEnv e c).env.getD []) e.build ↔ ¬ e.Deceived stored) ∧
    ((e.matchesVars stored = true ↔ EnvVar.Rearranged stored e.build)
      ↔ ¬ e.Deceived stored) := by
  intro e stored
  have he : e.Proper := Env.proper_ofSources sources
  have hrearranged : EnvVar.Rearranged stored e.build ↔ e.Passes stored ∧ ¬ e.Deceived stored := by
    rw [he.rearranged_iff, Env.Deceived]
    exact and_congr_right fun hpasses => by rw [and_iff_right hpasses, not_not]
  refine ⟨?_, ?_⟩
  · rw [withEnv_eq, settledEnv]
    by_cases hpasses : e.Passes stored
    · rw [if_pos (he.matchesVars_iff.2 hpasses)]
      exact hrearranged.trans (and_iff_right hpasses)
    · rw [if_neg (mt he.matchesVars_iff.1 hpasses), Keyed.getD_unlessEmpty]
      exact iff_of_true (.refl _) fun h => hpasses h.1
  · rw [he.matchesVars_iff, hrearranged]
    by_cases hpasses : e.Passes stored
    · simp only [hpasses, true_and, true_iff]
    · exact iff_of_true (by simp only [hpasses, false_and]) fun h => hpasses h.1

/-- A container with one variable twice. -/
def doubledVar : Container := { env := some [plainVar "A" "1", plainVar "A" "1"] }

/-- Two variables are wanted, and one of them is there twice: the other is not added. -/
theorem doubledVar_stays :
    let e := Env.ofSources [.value "A" "1", .value "B" "2"]
    withEnv e doubledVar = doubledVar ∧ e.matchesVars (doubledVar.env.getD []) = true ∧
      ¬ EnvVar.Rearranged (doubledVar.env.getD []) e.build := by
  refine ⟨rfl, rfl, fun h => ?_⟩
  exact absurd ((Env.proper_ofSources _).rearranged_iff.1 h).2.1 (by decide)

/-! ## Pull secrets -/

/-- A list of names that passes for the desired one, and has another name besides. -/
def Surplus (stored desired : List String) : Prop :=
  stored.length = desired.length ∧ desired ⊆ stored ∧ ¬ stored ⊆ desired

/-- The name besides is in the place of a desired one that repeats. -/
theorem Surplus.not_nodup {stored desired : List String} (h : Surplus stored desired) :
    ¬ desired.Nodup := by
  intro hnodup
  have hperm : stored.Perm desired :=
    (Keyed.length_and_subset_iff_perm hnodup).1 ⟨h.1, h.2.1⟩
  exact h.2.2 hperm.subset

theorem referencesDiffer_eq_false_iff (actual desired : List LocalObjectReference) :
    referencesDiffer actual desired = false
      ↔ (actual.map (·.name)).length = (desired.map (·.name)).length ∧
        desired.map (·.name) ⊆ actual.map (·.name) := by
  have hsub : (desired.any fun d => !actual.any fun a => decide (a.name = d.name)) = false
      ↔ desired.map (·.name) ⊆ actual.map (·.name) := by
    simp only [List.any_eq_false, Bool.not_eq_true, Bool.not_eq_false', List.any_eq_true,
      decide_eq_true_eq, List.subset_def, List.mem_map, forall_exists_index, and_imp,
      forall_apply_eq_imp_iff₂]
  rw [referencesDiffer, Bool.or_eq_false_iff, decide_eq_false_iff_not, not_not, hsub,
    List.length_map, List.length_map]

/-- **Whether pull secrets converge.** A pod is left with the names of the desired secrets
and no others, unless what is stored passes for them and has another besides. -/
theorem pullSecrets_repaired_iff (spec : Agent.Spec) (own : List String) (pod : PodSpec) :
    let desired := (imagePullSecrets spec own).map (·.name)
    let stored := (pod.imagePullSecrets.getD []).map (·.name)
    let left := ((withImagePullSecrets spec own pod).imagePullSecrets.getD []).map (·.name)
    (∀ name, name ∈ left ↔ name ∈ desired) ↔ ¬ Surplus stored desired := by
  intro desired stored left
  have hkeeps := referencesDiffer_eq_false_iff (pod.imagePullSecrets.getD [])
    (imagePullSecrets spec own)
  cases hdiffer : referencesDiffer (pod.imagePullSecrets.getD []) (imagePullSecrets spec own) with
  | false =>
    obtain ⟨hlen, hsub⟩ := hkeeps.1 hdiffer
    have hleft : left = stored := by
      simp only [left, stored, withImagePullSecrets, hdiffer, Bool.false_eq_true, if_false]
    rw [hleft, Surplus, and_iff_right hlen, and_iff_right hsub, not_not]
    exact ⟨fun hsame name => (hsame name).1, fun hback name => ⟨@hback name, @hsub name⟩⟩
  | true =>
    have hleft : left = desired := by
      simp only [left, desired, withImagePullSecrets, hdiffer, if_true, Keyed.getD_unlessEmpty]
    rw [hleft]
    refine iff_of_true (fun name => Iff.rfl) fun hsurplus => ?_
    rw [hkeeps.2 ⟨hsurplus.1, hsurplus.2.1⟩] at hdiffer
    cases hdiffer

/-- A spec with one pull secret for all components, and none of its own. -/
def sharedSecret : Agent.Spec :=
  { account := "acc"
    clusterName := "c"
    version := "1.0.0"
    components :=
      { settings := { createDefaultImagePullSecrets := false, imagePullSecrets := ["shared"] } } }

/-- A component asks for the shared secret as well: a stale one may stay in the place of
the repetition. -/
theorem staleSecret_stays :
    let pod : PodSpec := { imagePullSecrets := some [{ name := "shared" }, { name := "stale" }] }
    let left := withImagePullSecrets sharedSecret ["shared"] pod
    left = pod ∧ ¬ ∀ name, name ∈ (left.imagePullSecrets.getD []).map (·.name)
      ↔ name ∈ (imagePullSecrets sharedSecret ["shared"]).map (·.name) :=
  ⟨rfl, fun hsame => absurd ((hsame "stale").1 (by decide)) (by decide)⟩

end AgentOperator.Workload
