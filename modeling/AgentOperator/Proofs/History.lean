import AgentOperator.Proofs.Gist
import AgentOperator.Proofs.Wanted

/-!
AgentOperator.Proofs.History — specs that are carried out one after the other.

Bringing an object to one spec after another comes to the same as bringing an
empty object to the last of them (`Component.history_independent`), up to what
is outside of the gist: annotations of earlier specs stay, and amounts of
resources and pull secrets may still be written as an earlier spec had them.
-/

namespace AgentOperator.Kube

/-! ## Parts of objects -/

def Object.template? : Object → Option PodTemplateSpec
  | .deployment d => d.spec.map (·.template)
  | .daemonSet d => d.spec.map (·.template)
  | _ => none

def Object.templateAnnotations (o : Object) : Option (Dict String) :=
  (o.template?.bind (·.metadata)).bind (·.annotations)

def Object.containers (o : Object) : List Container :=
  ((o.template?.bind (·.spec)).map (·.containers)).getD []

def Object.pullSecrets (o : Object) : Option (List LocalObjectReference) :=
  (o.template?.bind (·.spec)).bind (·.imagePullSecrets)

end AgentOperator.Kube

namespace AgentOperator.Workload

open Kube (Container LocalObjectReference Quantity ResourceRequirements)

/-! ## What stays of earlier specs -/

/-- Annotations that are the fresh ones and some of earlier objects beside
them. -/
structure Overlaid (earlier : List (Option (Dict String))) (a fresh : Option (Dict String)) :
    Prop where
  keeps : ∀ k v, (fresh.getD ∅).get? k = some v → (a.getD ∅).get? k = some v
  extra : ∀ k v, (a.getD ∅).get? k = some v → (fresh.getD ∅).get? k = none →
    ∃ e ∈ earlier, (e.getD ∅).get? k = some v
  eq_of_no_extra : (∀ k, (fresh.getD ∅).get? k = none → (a.getD ∅).get? k = none) → a = fresh

/-- Containers that have the same amounts of resources: as they are written, or
else by value. An amount such as `nan` has not even its own value, and so it is
always written anew. -/
def SameAmounts (c d : Container) : Prop :=
  let a := c.resources.getD {}
  let b := d.resources.getD {}
  (a.limits = b.limits ∧ a.requests = b.requests) ∨
    (Quantity.sameLists a.limits b.limits = true ∧ Quantity.sameLists a.requests b.requests = true)

/-! ### Annotations -/

theorem get?_enforceEntries (a : Option (Dict String)) (d : Dict String) (k : String) :
    ((enforceEntries a d).getD ∅).get? k = (d.get? k).or ((a.getD ∅).get? k) := by
  unfold enforceEntries
  split
  · rename_i h
    rw [Dict.eq_empty_of_isEmpty h]
    rfl
  · rw [Option.getD_some, Dict.get?_overlay]

theorem getD_enforceEntries_none (d : Dict String) : (enforceEntries none d).getD ∅ = d := by
  refine Dict.ext_get? fun k => ?_
  rw [get?_enforceEntries]
  cases d.get? k <;> rfl

/-- Annotations are never left as a map without entries. -/
def NotBlank (a : Option (Dict String)) : Prop := a ≠ some ∅

theorem NotBlank.enforceEntries {a : Option (Dict String)} (ha : NotBlank a) (d : Dict String) :
    NotBlank (enforceEntries a d) := by
  intro hblank
  by_cases hd : d.isEmpty
  · exact ha (by rwa [Workload.enforceEntries, if_pos hd] at hblank)
  · refine hd ?_
    have hnone : ∀ k, d.get? k = none := by
      intro k
      have hk := get?_enforceEntries a d k
      rw [hblank] at hk
      exact (Option.or_eq_none_iff.1 hk.symm).1
    rw [Dict.ext_get? (a := d) (b := ∅) hnone]
    rfl

theorem eq_of_get? {a b : Option (Dict String)} (ha : NotBlank a) (hb : NotBlank b)
    (h : ∀ k, (a.getD ∅).get? k = (b.getD ∅).get? k) : a = b := by
  have hsame : a.getD ∅ = b.getD ∅ := Dict.ext_get? h
  cases a with
  | none =>
    cases b with
    | none => rfl
    | some d => exact absurd (congrArg some hsame.symm) hb
  | some d =>
    cases b with
    | none => exact absurd (congrArg some hsame) ha
    | some e => exact congrArg some hsame

/-- What a spec lays over annotations of which all are those of earlier
objects. -/
theorem overlaid_enforceEntries {earlier : List (Option (Dict String))}
    {a : Option (Dict String)} (ha : NotBlank a)
    (hfrom : ∀ k v, (a.getD ∅).get? k = some v → ∃ e ∈ earlier, (e.getD ∅).get? k = some v)
    {fresh : Option (Dict String)} (hfresh : NotBlank fresh) :
    Overlaid earlier (enforceEntries a (fresh.getD ∅)) fresh where
  keeps k v h := by rw [get?_enforceEntries, h]; rfl
  extra k v h hno := by
    rw [get?_enforceEntries, hno] at h
    exact hfrom k v h
  eq_of_no_extra h := by
    refine eq_of_get? (ha.enforceEntries _) hfresh fun k => ?_
    cases hk : (fresh.getD ∅).get? k with
    | none => exact h k hk
    | some v => rw [get?_enforceEntries, hk]; rfl

/-! ### Resources and pull secrets -/

theorem getD_filter_nonempty {V : Type} (d : Option (Dict V)) :
    (d.filter (!·.isEmpty)).getD ∅ = d.getD ∅ := by
  cases d with
  | none => rfl
  | some d =>
    by_cases h : d.isEmpty
    · rw [Option.filter_some, h]
      exact (Dict.eq_empty_of_isEmpty h).symm
    · simp [Option.filter_some, h]

/-- Amounts that are the same as none are none. -/
theorem filter_eq_none_of_sameLists {d : Option (Dict Quantity)}
    (h : Quantity.sameLists none d = true) : d.filter (!·.isEmpty) = none := by
  cases d with
  | none => rfl
  | some d =>
    simp only [Quantity.sameLists, Bool.and_eq_true, decide_eq_true_eq] at h
    have hd : d.isEmpty = true := List.isEmpty_iff.2 (List.eq_nil_of_length_eq_zero h.1.symm)
    simp [Option.filter_some, hd]

theorem settledResources_none (desired : ResourceRequirements) :
    (settledResources desired none).getD {}
      = { limits := desired.limits.filter (!·.isEmpty)
          requests := desired.requests.filter (!·.isEmpty) } := by
  unfold settledResources
  split
  · rename_i h
    obtain ⟨hlimits, hrequests⟩ := Bool.and_eq_true_iff.1 h
    rw [filter_eq_none_of_sameLists hlimits, filter_eq_none_of_sameLists hrequests]
    rfl
  · rfl

/-- Whatever was there, what is left has the amounts of what is written where
nothing was. -/
theorem sameAmounts_settledResources {desired : ResourceRequirements} {c d : Container}
    {r : Option ResourceRequirements} (hc : c.resources = settledResources desired r)
    (hd : d.resources = settledResources desired none) : SameAmounts c d := by
  rw [SameAmounts, hc, hd, settledResources_none]
  by_cases h : hasResources desired { resources := r }
  · rw [settledResources, if_pos h]
    obtain ⟨hlimits, hrequests⟩ := Bool.and_eq_true_iff.1 h
    refine .inr ⟨?_, ?_⟩
    · rw [Quantity.sameLists, getD_filter_nonempty]
      exact hlimits
    · rw [Quantity.sameLists, getD_filter_nonempty]
      exact hrequests
  · rw [settledResources, if_neg h]
    exact .inl ⟨rfl, rfl⟩

theorem referencesDiffer_self (desired : List LocalObjectReference) :
    referencesDiffer desired desired = false := by
  have hfound : ∀ d ∈ desired, (desired.any fun a => decide (a.name = d.name)) = true :=
    fun d hd => List.any_eq_true.2 ⟨d, hd, decide_eq_true rfl⟩
  have hnone : (desired.any fun d => !desired.any fun a => decide (a.name = d.name)) = false :=
    List.any_eq_false.2 fun d hd => by simp [hfound d hd]
  rw [referencesDiffer, hnone]
  simp

theorem getD_settledPullSecrets_none (desired : List LocalObjectReference) :
    (settledPullSecrets desired none).getD [] = desired := by
  unfold settledPullSecrets
  split
  · exact Keyed.getD_unlessEmpty desired
  · rename_i h
    have hlen : desired.length = 0 := by
      by_contra hne
      refine h ?_
      simp [referencesDiffer, Ne.symm hne]
    rw [List.eq_nil_of_length_eq_zero hlen]
    rfl

theorem not_differ_settledPullSecrets (desired : List LocalObjectReference)
    (actual : Option (List LocalObjectReference)) :
    referencesDiffer ((settledPullSecrets desired actual).getD [])
      ((settledPullSecrets desired none).getD []) = false := by
  rw [getD_settledPullSecrets_none, settledPullSecrets]
  split
  · rw [Keyed.getD_unlessEmpty, referencesDiffer_self]
  · rename_i h
    exact Bool.eq_false_iff.2 h

end AgentOperator.Workload

namespace AgentOperator.Dataplane

open Kube (Container DaemonSet LocalObjectReference Object)
open Workload

variable {c : Component} {s s' : Surroundings} {spec spec' : Agent.Spec} {o o' o₁ f f' : Object}
  {earlier : List Object}

/-! ## Being refused -/

/-- For want of what fact from outside a component refuses to bring objects of its
kind to a spec. -/
def Component.refusal (c : Component) (s : Surroundings) : Option Error :=
  let reason {α : Type} (r : Except Error α) : Option Error :=
    match r with
    | .ok _ => none
    | .error e => some e
  match c with
  | .registrySecret => reason s.requiredRegistry
  | .enforcerTls => reason s.issued
  | .validatingWebhook | .mutatingWebhook => reason s.requiredTls
  | _ => none

/-- An object of another kind is refused as such, whatever else is amiss. -/
theorem Component.mutate_of_kind_ne (h : o.kind ≠ c.kind) :
    c.mutate s spec o = .error (.unexpectedKind c.kind o.kind) := by
  cases c <;> cases o <;> first | rfl | exact absurd rfl h

/-- Neither the spec nor the object has a say in it. -/
theorem Component.mutate_eq_error_iff (hkind : o.kind = c.kind) {e : Error} :
    c.mutate s spec o = .error e ↔ c.refusal s = some e := by
  cases c <;> cases o <;> simp only [kind, Object.kind, reduceCtorEq] at hkind
  case registrySecret.secret secret =>
    simp only [mutate, refusal, Object.asSecret]
    cases s.requiredRegistry <;> simp [pure, Except.pure, bind, Except.bind]
  case enforcerTls.secret secret =>
    simp only [mutate, refusal, Object.asSecret]
    cases s.issued <;> simp [pure, Except.pure, bind, Except.bind]
  case validatingWebhook.validatingWebhookConfiguration w =>
    simp only [mutate, refusal, Object.asValidatingWebhooks]
    cases s.requiredTls <;> simp [pure, Except.pure, bind, Except.bind]
  case mutatingWebhook.mutatingWebhookConfiguration w =>
    simp only [mutate, refusal, Object.asMutatingWebhooks]
    cases s.requiredTls <;> simp [pure, Except.pure, bind, Except.bind]
  all_goals
    constructor <;> intro h <;> cases h

theorem Component.Change.refusal (h : Component.Change s spec c o o₁) : c.refusal s = none := by
  cases h with
  | registrySecret _ hr => simp only [Component.refusal, requiredRegistry_eq_ok.2 hr]
  | enforcerTls _ htls => simp only [Component.refusal, htls]
  | validatingWebhook _ htls => simp only [Component.refusal, requiredTls_eq_ok.2 htls]
  | mutatingWebhook _ htls => simp only [Component.refusal, requiredTls_eq_ok.2 htls]
  | deployment _ hp => cases c <;> first | rfl | cases hp
  | service _ hp => cases c <;> first | rfl | cases hp
  | _ => rfl

/-- A component that does not refuse brings every object of its kind to the spec. -/
theorem Component.exists_change (spec : Agent.Spec) (hkind : o.kind = c.kind)
    (h : c.refusal s = none) : ∃ o₁, Component.Change s spec c o o₁ := by
  cases hmutate : c.mutate s spec o with
  | ok o₁ => exact ⟨o₁, change_of_mutate hmutate⟩
  | error e =>
    rw [mutate_eq_error_iff hkind, h] at hmutate
    cases hmutate

/-! ## One step -/

/-- The annotations a spec lays over those of a component's object, and of its
template. -/
def Component.annotations (c : Component) (nodes : Option UInt64) (spec : Agent.Spec) :
    Dict String × Dict String :=
  match c.deploymentPlan? nodes spec with
  | some p => (p.annotations, p.templateAnnotations)
  | none =>
    if c = .nodeAgent then (nodeAgentAnnotations spec, nodeAgentTemplateAnnotations spec)
    else (∅, ∅)

theorem Component.Change.annotations (h : Component.Change s spec c o o₁) :
    o₁.metadata.annotations
        = enforceEntries o.metadata.annotations (c.annotations s.nodes spec).1 ∧
      o₁.templateAnnotations
        = enforceEntries o.templateAnnotations (c.annotations s.nodes spec).2 := by
  cases h with
  | configMap m => exact ⟨rfl, rfl⟩
  | registrySecret secret hr => exact ⟨rfl, rfl⟩
  | priorityClass p => exact ⟨rfl, rfl⟩
  | enforcerTls secret htls => exact ⟨rfl, rfl⟩
  | validatingWebhook w htls =>
    refine ⟨?_, rfl⟩
    simp only [Object.metadata, withValidatingEntries, withEntries_eq, withConfigurationLabels]
    rfl
  | mutatingWebhook w htls =>
    refine ⟨?_, rfl⟩
    simp only [Object.metadata, withMutatingEntries, withEntries_eq, withConfigurationLabels]
    rfl
  | deployment d hp =>
    simp only [Component.annotations, hp]
    refine ⟨rfl, ?_⟩
    rcases d with ⟨m, _ | ⟨replicas, selector, ⟨_ | tm, pod⟩, rest⟩, status⟩ <;> rfl
  | service d hp =>
    cases c <;> first | exact ⟨rfl, rfl⟩ | cases hp
  | nodeAgent d =>
    refine ⟨rfl, ?_⟩
    rcases d with ⟨m, _ | ⟨selector, ⟨_ | tm, pod⟩, rest⟩, status⟩ <;> rfl

/-- The pull secrets a spec asks for in the pods of a component. -/
def Component.pullSecrets (c : Component) (nodes : Option UInt64) (spec : Agent.Spec) :
    List LocalObjectReference :=
  match c.deploymentPlan? nodes spec with
  | some p => imagePullSecrets spec p.pullSecrets
  | none =>
    if c = .nodeAgent then
      imagePullSecrets spec spec.components.runtimeProtection.sensor.image.pullSecrets
    else []

theorem Component.Change.pullSecrets (h : Component.Change s spec c o o₁) :
    o₁.pullSecrets = settledPullSecrets (c.pullSecrets s.nodes spec) o.pullSecrets := by
  cases h with
  | deployment d hp =>
    simp only [Component.pullSecrets, hp]
    have hpod : (Object.deployment d).pullSecrets = (podOf d).imagePullSecrets := by
      rcases d with ⟨m, _ | ⟨replicas, selector, ⟨tm, _ | pod⟩, rest⟩, status⟩ <;> rfl
    rw [hpod]
    show (DeploymentPlan.applyPod _ spec (podOf d)).imagePullSecrets = _
    rw [DeploymentPlan.applyPod_eq (deploymentPlan?_proper hp).volumes_ne_nil]
  | service d hp => cases c <;> first | rfl | cases hp
  | nodeAgent d =>
    have hpod : (Object.daemonSet d).pullSecrets = (agentPodOf d).imagePullSecrets := by
      rcases d with ⟨m, _ | ⟨selector, ⟨tm, _ | pod⟩, rest⟩, status⟩ <;> rfl
    rw [hpod]
    show (withNodeAgentPod spec (agentPodOf d)).imagePullSecrets = _
    rw [withNodeAgentPod_eq]
    rfl
  | _ => rfl

/-- An object whose gist is that of the empty one, or that of the empty one brought
to some spec. -/
def Component.Inherits (c : Component) (kubelet : String) (o : Object) : Prop :=
  o.gist = (c.emptyObject kubelet).gist ∨
    ∃ s spec f, s.kubelet = kubelet ∧ Component.Change s spec c (c.emptyObject kubelet) f ∧
      o.gist = f.gist

/-- **One step.** Brought to a spec, such an object has the gist of the empty one
brought to that spec. -/
theorem Component.Inherits.gist_eq {kubelet : String} (hkubelet : s.kubelet = kubelet)
    (ho : c.Inherits kubelet o) (h : Component.Change s spec c o o₁)
    (hfresh : Component.Change s spec c (c.emptyObject kubelet) f) : o₁.gist = f.gist := by
  subst hkubelet
  rcases ho with hempty | ⟨s', spec', f', hkubelet, hold, hgist⟩
  · exact h.gist_congr hfresh hempty
  · have hkind : f'.kind = c.kind := hold.kind_eq
    obtain ⟨o₂, hover⟩ := exists_change spec hkind h.refusal
    rw [h.gist_congr hover hgist]
    exact hold.gist_over hkubelet rfl hover hfresh

theorem containersIf_of_gist {runtime scanning : Bool} {a b : Container} {cs : List Container}
    (h : cs.map Container.gist = (containersIf runtime scanning a b).map Container.gist) :
    ∃ a' b', cs = containersIf runtime scanning a' b' ∧ a'.name = a.name ∧ b'.name = b.name := by
  cases runtime <;> cases scanning <;> simp only [containersIf, if_true, if_false,
    Bool.false_eq_true, List.nil_append, List.append_nil, List.map_nil, List.map_cons,
    List.cons_append, List.map_eq_nil_iff, List.map_eq_cons_iff] at h ⊢
  · exact ⟨a, b, h, rfl, rfl⟩
  · obtain ⟨b', _, rfl, hb, rfl⟩ := h
    exact ⟨a, b', rfl, rfl, name_eq_of_gist hb⟩
  · obtain ⟨a', _, rfl, ha, rfl⟩ := h
    exact ⟨a', b, rfl, name_eq_of_gist ha, rfl⟩
  · obtain ⟨a', _, rfl, ha, b', _, rfl, hb, rfl⟩ := h
    exact ⟨a', b', rfl, name_eq_of_gist ha, name_eq_of_gist hb⟩

theorem containers_gist (o : Object) : o.gist.containers = o.containers.map Container.gist := by
  cases o with
  | deployment d => rcases d with ⟨m, _ | ⟨replicas, selector, ⟨tm, _ | pod⟩, rest⟩, status⟩ <;> rfl
  | daemonSet d => rcases d with ⟨m, _ | ⟨selector, ⟨tm, _ | pod⟩, rest⟩, status⟩ <;> rfl
  | _ => rfl

theorem withSensor_resources (spec : Agent.Spec) (c : Container) :
    (withSensor spec c).resources = settledResources
      spec.components.runtimeProtection.sensor.resources c.resources := by
  rw [withSensor_eq]
  rfl

theorem withScanner_resources (spec : Agent.Spec) (c : Container) :
    (withScanner spec c).resources = settledResources
      spec.components.clusterScanning.clusterScanner.resources c.resources := by
  rw [withScanner_eq]
  rfl

theorem sameAmounts_agentContainers {cs : List Container} {runtime scanning : Bool}
    {a b : Container} (ha : a.name = sensorContainerName) (hb : b.name = scannerContainerName)
    (h : cs.map Container.gist = (containersIf runtime scanning a b).map Container.gist) :
    List.Forall₂ SameAmounts (agentContainers spec cs) (agentContainers spec []) := by
  obtain ⟨a', b', rfl, ha', hb'⟩ := containersIf_of_gist h
  have hsensor (c : Container) :
      SameAmounts (withSensor spec c) (withSensor spec { name := sensorContainerName }) :=
    sameAmounts_settledResources (withSensor_resources spec c) (withSensor_resources spec _)
  have hscanner (c : Container) :
      SameAmounts (withScanner spec c) (withScanner spec { name := scannerContainerName }) :=
    sameAmounts_settledResources (withScanner_resources spec c) (withScanner_resources spec _)
  rw [agentContainers_nil, agentContainers_containersIf spec (ha'.trans ha) (hb'.trans hb)]
  cases spec.components.runtimeProtection.enabled <;>
    cases spec.components.clusterScanning.enabled <;>
    simp [containersIf, hsensor, hscanner]

/-- The containers of what is brought to a spec have the amounts of resources that
those of the empty object brought to it have. -/
theorem Component.Inherits.sameAmounts {kubelet : String} (ho : c.Inherits kubelet o)
    (h : Component.Change s spec c o o₁)
    (hfresh : Component.Change s spec c (c.emptyObject kubelet) f) :
    List.Forall₂ SameAmounts o₁.containers f.containers := by
  cases h with
  | @deployment _ d p hp =>
    rw [emptyObject_of_deploymentPlan? hp] at hfresh
    cases hfresh with
    | @deployment _ _ q hq =>
      cases hp.symm.trans hq
      have hproper := deploymentPlan?_proper hp
      obtain ⟨change, hsecure, -⟩ := hproper.container.secure_settles
      have hcontainers (d : Kube.Deployment) : (Object.deployment (p.apply spec d)).containers
          = [p.settledContainer spec (podOf d).containers] := by
        show (p.applyPod spec (podOf d)).containers = _
        rw [DeploymentPlan.applyPod_eq hproper.volumes_ne_nil]
      have hresources (cs : List Container) : (p.settledContainer spec cs).resources
          = settledResources p.container.resources (onlyContainer cs).resources := by
        rw [DeploymentPlan.settledContainer,
          ContainerPlan.apply_eq spec hproper.container.mounts_ne_nil hsecure]
        rfl
      rw [hcontainers, hcontainers]
      exact .cons (sameAmounts_settledResources (hresources _) (hresources _)) .nil
  | service d hp =>
    rw [emptyObject_of_servicePlan? hp] at hfresh
    cases hfresh with
    | service _ hq => exact .nil
  | nodeAgent d =>
    cases hfresh
    have hcontainers (spec : Agent.Spec) (d : DaemonSet) :
        (Object.daemonSet (withNodeAgent spec d)).containers
          = agentContainers spec (agentPodOf d).containers := by
      show (withNodeAgentPod spec (agentPodOf d)).containers = _
      rw [withNodeAgentPod_eq]
    have hsource : (Object.daemonSet d).containers = (agentPodOf d).containers := by
      rcases d with ⟨m, _ | ⟨selector, ⟨tm, _ | pod⟩, rest⟩, status⟩ <;> rfl
    rw [hcontainers, hcontainers]
    rcases ho with hempty | ⟨s', spec', f', -, hold, hgist⟩
    · have hnone := congrArg Object.containers hempty
      rw [containers_gist, containers_gist, hsource] at hnone
      exact @sameAmounts_agentContainers spec _ false false { name := sensorContainerName }
        { name := scannerContainerName } rfl rfl hnone
    · cases hold
      have hsome := congrArg Object.containers hgist
      rw [containers_gist, containers_gist, hsource, hcontainers] at hsome
      exact sameAmounts_agentContainers (withSensor_name spec' _) (withScanner_name spec' _)
        (hsome.trans (congrArg _ (agentContainers_nil spec')))
  | _ => cases hfresh; exact .nil

/-! ## Any number of steps -/

/-- An object that is like a fresh one: all of the same gist, with annotations of
earlier objects beside the fresh ones, amounts of resources that are the same by
value, and pull secrets of which none differs. -/
structure Alike (earlier : List Object) (o fresh : Object) : Prop where
  gist : o.gist = fresh.gist
  annotations : Overlaid (earlier.map (·.metadata.annotations)) o.metadata.annotations
    fresh.metadata.annotations
  templateAnnotations : Overlaid (earlier.map (·.templateAnnotations)) o.templateAnnotations
    fresh.templateAnnotations
  amounts : List.Forall₂ SameAmounts o.containers fresh.containers
  pullSecrets : referencesDiffer (o.pullSecrets.getD []) (fresh.pullSecrets.getD []) = false

/-- Annotations that all come from earlier objects. -/
structure Gathered (earlier : List (Option (Dict String))) (a : Option (Dict String)) : Prop where
  notBlank : NotBlank a
  origin : ∀ k v, (a.getD ∅).get? k = some v → ∃ e ∈ earlier, (e.getD ∅).get? k = some v

/-- What a component's object is while the objects that single specs make of the
empty one are the earlier ones. -/
structure Component.Grown (c : Component) (kubelet : String) (earlier : List Object)
    (o : Object) : Prop where
  kind : o.kind = c.kind
  inherits : c.Inherits kubelet o
  annotations : Gathered (earlier.map (·.metadata.annotations)) o.metadata.annotations
  templateAnnotations : Gathered (earlier.map (·.templateAnnotations)) o.templateAnnotations

theorem annotations_emptyObject (c : Component) (kubelet : String) :
    (c.emptyObject kubelet).metadata.annotations = none ∧
      (c.emptyObject kubelet).templateAnnotations = none := by
  cases c <;> exact ⟨rfl, rfl⟩

/-- The annotations that a spec lays over others are those it gives to an empty
object. -/
theorem Component.Change.fresh_annotations {kubelet : String}
    (hfresh : Component.Change s spec c (c.emptyObject kubelet) f) :
    f.metadata.annotations = enforceEntries none (c.annotations s.nodes spec).1 ∧
      f.templateAnnotations = enforceEntries none (c.annotations s.nodes spec).2 := by
  obtain ⟨hnone, hnone'⟩ := annotations_emptyObject c kubelet
  obtain ⟨h, h'⟩ := hfresh.annotations
  rw [hnone] at h
  rw [hnone'] at h'
  exact ⟨h, h'⟩

theorem notBlank_none : NotBlank none := nofun

theorem Gathered.overlaid {earlier : List (Option (Dict String))} {a fresh : Option (Dict String)}
    {d : Dict String} (ha : Gathered earlier a) (hfresh : fresh = enforceEntries none d) :
    Overlaid earlier (enforceEntries a d) fresh := by
  have hd : fresh.getD ∅ = d := by rw [hfresh, getD_enforceEntries_none]
  have hover := overlaid_enforceEntries ha.notBlank ha.origin
    (hfresh ▸ notBlank_none.enforceEntries d : NotBlank fresh)
  rwa [hd] at hover

theorem Gathered.next {earlier : List (Option (Dict String))} {a fresh : Option (Dict String)}
    {d : Dict String} (ha : Gathered earlier a) (hfresh : fresh = enforceEntries none d) :
    Gathered (earlier ++ [fresh]) (enforceEntries a d) where
  notBlank := ha.notBlank.enforceEntries d
  origin k v h := by
    have hover := ha.overlaid hfresh
    cases hk : (fresh.getD ∅).get? k with
    | none =>
      obtain ⟨e, he, hev⟩ := hover.extra k v h hk
      exact ⟨e, List.mem_append_left _ he, hev⟩
    | some w =>
      have hw := hover.keeps k w hk
      rw [h] at hw
      cases hw
      exact ⟨fresh, List.mem_append_right _ (List.mem_singleton_self _), hk⟩

theorem Component.grown_empty (c : Component) (kubelet : String) :
    c.Grown kubelet [] (c.emptyObject kubelet) := by
  obtain ⟨hnone, hnone'⟩ := annotations_emptyObject c kubelet
  refine ⟨emptyObject_kind c kubelet, .inl rfl, ?_, ?_⟩
  · rw [hnone]
    exact ⟨notBlank_none, fun k v h => by cases h⟩
  · rw [hnone']
    exact ⟨notBlank_none, fun k v h => by cases h⟩

/-- Brought to one more spec, a grown object is like the empty one brought to that
spec alone. -/
theorem Component.Grown.alike {kubelet : String} (hkubelet : s.kubelet = kubelet)
    (ho : c.Grown kubelet earlier o) (h : Component.Change s spec c o o₁)
    (hfresh : Component.Change s spec c (c.emptyObject kubelet) f) : Alike earlier o₁ f := by
  obtain ⟨hf, hf'⟩ := hfresh.fresh_annotations
  obtain ⟨h₁, h₁'⟩ := h.annotations
  have hnone : (c.emptyObject kubelet).pullSecrets = none := by cases c <;> rfl
  refine ⟨ho.inherits.gist_eq hkubelet h hfresh, ?_, ?_, ho.inherits.sameAmounts h hfresh, ?_⟩
  · rw [h₁]
    exact ho.annotations.overlaid hf
  · rw [h₁']
    exact ho.templateAnnotations.overlaid hf'
  · rw [h.pullSecrets, hfresh.pullSecrets, hnone]
    exact not_differ_settledPullSecrets _ _

/-- And it has grown by what that spec alone makes of the empty object. -/
theorem Component.Grown.next {kubelet : String} (hkubelet : s.kubelet = kubelet)
    (ho : c.Grown kubelet earlier o) (h : Component.Change s spec c o o₁)
    (hfresh : Component.Change s spec c (c.emptyObject kubelet) f) :
    c.Grown kubelet (earlier ++ [f]) o₁ := by
  obtain ⟨hf, hf'⟩ := hfresh.fresh_annotations
  obtain ⟨h₁, h₁'⟩ := h.annotations
  refine ⟨h.kind_eq, .inr ⟨s, spec, f, hkubelet, hfresh, ho.inherits.gist_eq hkubelet h hfresh⟩,
    ?_, ?_⟩
  · rw [h₁, List.map_append]
    exact ho.annotations.next hf
  · rw [h₁', List.map_append]
    exact ho.templateAnnotations.next hf'

/-! ## Any number of specs -/

/-- Specs carried out one after the other, each in its surroundings. -/
def Component.mutateAll (c : Component) (s : Agent.Spec → Surroundings) (specs : List Agent.Spec)
    (o : Object) : Except Error Object :=
  specs.foldlM (fun o spec => c.mutate (s spec) spec o) o

/-- The objects that single specs make of the empty one. -/
def Component.Singly (c : Component) (s : Agent.Spec → Surroundings) (kubelet : String) :
    List Agent.Spec → List Object → Prop :=
  List.Forall₂ fun spec f => c.mutate (s spec) spec (c.emptyObject kubelet) = .ok f

theorem Component.mutateAll_concat (c : Component) (s : Agent.Spec → Surroundings)
    (specs : List Agent.Spec) (spec : Agent.Spec) (o : Object) :
    c.mutateAll s (specs ++ [spec]) o = c.mutateAll s specs o >>= c.mutate (s spec) spec := by
  simp [mutateAll, List.foldlM_append]

/-- Whatever specs were carried out, the object has grown by what each of them
makes of the empty one. -/
theorem Component.mutateAll_grown {s : Agent.Spec → Surroundings} {kubelet : String}
    (hkubelet : ∀ spec, (s spec).kubelet = kubelet) {specs : List Agent.Spec}
    (h : c.mutateAll s specs (c.emptyObject kubelet) = .ok o) :
    ∃ earlier, c.Singly s kubelet specs earlier ∧ c.Grown kubelet earlier o := by
  induction specs using List.reverseRecOn generalizing o with
  | nil =>
    cases h
    exact ⟨[], .nil, c.grown_empty kubelet⟩
  | append_singleton specs spec ih =>
    rw [mutateAll_concat] at h
    obtain ⟨o', ho', hmutate⟩ := Except.bind_eq_ok.1 h
    obtain ⟨earlier, hsingly, hgrown⟩ := ih ho'
    have hchange := change_of_mutate hmutate
    obtain ⟨f, hfresh⟩ := exists_change spec (emptyObject_kind c kubelet) hchange.refusal
    exact ⟨earlier ++ [f], List.rel_append hsingly (.cons hfresh.mutate .nil),
      hgrown.next (hkubelet spec) hchange hfresh⟩

/-- If the specs cannot be carried out one after the other, then one of them cannot
be carried out at all, for the same reason. -/
theorem Component.exists_of_mutateAll_error {s : Agent.Spec → Surroundings} {kubelet : String}
    (hkubelet : ∀ spec, (s spec).kubelet = kubelet) {specs : List Agent.Spec} {e : Error}
    (h : c.mutateAll s specs (c.emptyObject kubelet) = .error e) :
    ∃ spec ∈ specs, c.mutate (s spec) spec (c.emptyObject kubelet) = .error e := by
  induction specs using List.reverseRecOn with
  | nil => cases h
  | append_singleton specs spec ih =>
    rw [mutateAll_concat] at h
    cases ho : c.mutateAll s specs (c.emptyObject kubelet) with
    | error e' =>
      rw [ho] at h
      cases h
      obtain ⟨bad, hbad, hfail⟩ := ih ho
      exact ⟨bad, List.mem_append_left _ hbad, hfail⟩
    | ok o =>
      rw [ho] at h
      obtain ⟨_, -, hgrown⟩ := mutateAll_grown hkubelet ho
      have hfail : c.mutate (s spec) spec o = .error e := h
      rw [mutate_eq_error_iff hgrown.kind] at hfail
      exact ⟨spec, List.mem_append_right _ (List.mem_singleton_self _),
        (mutate_eq_error_iff (emptyObject_kind c kubelet)).2 hfail⟩

/-- The surroundings with the certificate that an issuer has for a spec's enforcer. -/
def Surroundings.issuedBy (s : Surroundings) (issue : Kube.ObjectKey → Except Error TlsMaterial)
    (spec : Agent.Spec) : Surroundings :=
  { s with issued := issue (enforcerServiceKey spec) }

/-- **History independence.** Specs carried out one after the other on the empty
object of a component, under fixed surroundings, leave an object like the one that
the last of them alone makes of the empty object. They fail only if one of them
cannot be carried out at all. -/
theorem Component.history_independent (c : Component) (s : Surroundings)
    (issue : Kube.ObjectKey → Except Error TlsMaterial) (specs : List Agent.Spec)
    (spec : Agent.Spec) :
    match c.mutateAll (s.issuedBy issue) (specs ++ [spec]) (c.emptyObject s.kubelet) with
    | .ok o => ∃ earlier fresh, c.Singly (s.issuedBy issue) s.kubelet specs earlier ∧
        c.mutate (s.issuedBy issue spec) spec (c.emptyObject s.kubelet) = .ok fresh ∧
        Alike earlier o fresh
    | .error e => ∃ bad ∈ specs ++ [spec],
        c.mutate (s.issuedBy issue bad) bad (c.emptyObject s.kubelet) = .error e := by
  have hkubelet : ∀ spec, (s.issuedBy issue spec).kubelet = s.kubelet := fun _ => rfl
  cases hall : c.mutateAll (s.issuedBy issue) (specs ++ [spec]) (c.emptyObject s.kubelet) with
  | error e => exact exists_of_mutateAll_error hkubelet hall
  | ok o =>
    rw [mutateAll_concat] at hall
    obtain ⟨o', ho', hmutate⟩ := Except.bind_eq_ok.1 hall
    obtain ⟨earlier, hsingly, hgrown⟩ := mutateAll_grown hkubelet ho'
    have hchange := change_of_mutate hmutate
    obtain ⟨fresh, hfresh⟩ :=
      exists_change spec (emptyObject_kind c s.kubelet) hchange.refusal
    exact ⟨earlier, fresh, hsingly, hfresh.mutate, hgrown.alike (hkubelet spec) hchange hfresh⟩

end AgentOperator.Dataplane
