import AgentOperator.Dataplane.Deployments
import AgentOperator.Proofs.Containers

/-!
AgentOperator.Proofs.Deployments — what is written into pods, workloads and the
five deployments, member by member.

As for containers, each change is one of members of its own and does nothing
the second time, save for the two lists that are settled by count: the volumes
of the pod and the mounts of its container. A deployment brought to its plan is
left alone the second time exactly when neither was stray
(`DeploymentPlan.apply_apply_iff`).
-/

namespace AgentOperator.Workload

open Kube (Affinity KeyToPath LocalObjectReference NodeSelector NodeSelectorRequirement PodSpec
  Volume)
open Dataplane

/-! ## Volumes -/

def volumeNaming : Keyed.Naming Volume where
  key := (·.name)
  fresh name := { name }
  key_fresh _ := rfl

theorem rootCAsItems_rootCAsItems (items : List KeyToPath) :
    rootCAsItems (rootCAsItems items) = rootCAsItems items := by
  have hfresh : rootCAsItems [{ key := rootCAsFile, path := rootCAsFile }]
      = [{ key := rootCAsFile, path := rootCAsFile }] := by
    simp [rootCAsItems]
  match items with
  | [] => exact hfresh
  | [item] =>
    by_cases h : item.key = rootCAsFile
    · simp [rootCAsItems, h]
    · simpa only [rootCAsItems, if_neg h] using hfresh
  | _ :: _ :: _ => exact hfresh

/-! ## Placement -/

/-- The affinity of a pod that is kept to nodes that meet the requirements. -/
def settledAffinity (requirements : List NodeSelectorRequirement) (a : Option Affinity) :
    Affinity :=
  let affinity := a.getD {}
  let nodes := affinity.nodeAffinity.getD {}
  { affinity with
    nodeAffinity := some
      { nodes with required := some (requireAll requirements (nodes.required.getD {})) } }

theorem requireAll_requireAll (requirements : List NodeSelectorRequirement) (s : NodeSelector) :
    requireAll requirements (requireAll requirements s) = requireAll requirements s := by
  by_cases h : carriesAll requirements s
  · have hkeep : requireAll requirements s = s := by rw [requireAll, if_pos h]
    rw [hkeep, hkeep]
  · have hwrite : requireAll requirements s
        = { nodeSelectorTerms := [{ matchExpressions := some requirements }] } := by
      rw [requireAll, if_neg h]
    rw [hwrite, requireAll]
    split <;> rfl

theorem settledAffinity_settled (requirements : List NodeSelectorRequirement)
    (a : Option Affinity) :
    settledAffinity requirements (some (settledAffinity requirements a))
      = settledAffinity requirements a := by
  simp only [settledAffinity, Option.getD_some, requireAll_requireAll]

/-! ## Pull secrets -/

/-- The pull secrets a pod is left with. -/
def settledPullSecrets (desired : List LocalObjectReference)
    (actual : Option (List LocalObjectReference)) : Option (List LocalObjectReference) :=
  if referencesDiffer (actual.getD []) desired then Keyed.unlessEmpty desired else actual

theorem withImagePullSecrets_eq (spec : Agent.Spec) (own : List String) (pod : PodSpec) :
    withImagePullSecrets spec own pod
      = { pod with
          imagePullSecrets :=
            settledPullSecrets (imagePullSecrets spec own) pod.imagePullSecrets } := by
  simp only [withImagePullSecrets, settledPullSecrets]
  split <;> rfl

theorem settledPullSecrets_settled (desired : List LocalObjectReference)
    (actual : Option (List LocalObjectReference)) :
    settledPullSecrets desired (settledPullSecrets desired actual)
      = settledPullSecrets desired actual := by
  by_cases h : referencesDiffer (actual.getD []) desired
  · have hwrite : settledPullSecrets desired actual = Keyed.unlessEmpty desired := by
      rw [settledPullSecrets, if_pos h]
    rw [hwrite, settledPullSecrets]
    split <;> rfl
  · have hkeep : settledPullSecrets desired actual = actual := by
      rw [settledPullSecrets, if_neg h]
    rw [hkeep, hkeep]

/-! ## Labels and annotations -/

theorem get?_foldl_insert (es : List (String × String)) (base : Dict String) (k : String) :
    (es.foldl (fun acc e => acc.insert e.1 e.2) base).get? k
      = ((es.reverse.find? fun e => decide (e.1 = k)).map (·.2)).or (base.get? k) := by
  induction es generalizing base with
  | nil => simp
  | cons e es ih =>
    rw [List.foldl_cons, ih, List.reverse_cons, List.find?_append, Dict.get?_insert]
    cases es.reverse.find? fun e => decide (e.1 = k) with
    | some d => simp
    | none => by_cases h : e.1 = k <;> simp [h]

/-- Of an entry in both maps the one on top counts. -/
theorem overlay_overlay (base top : Dict String) :
    (base.overlay top).overlay top = base.overlay top := by
  refine Dict.ext_get? fun k => ?_
  simp only [Dict.overlay, get?_foldl_insert]
  cases (top.entries.reverse.find? fun e => decide (e.1 = k)).map (·.2) <;> rfl

theorem enforceEntries_enforceEntries (actual : Option (Dict String)) (desired : Dict String) :
    enforceEntries (enforceEntries actual desired) desired = enforceEntries actual desired := by
  by_cases h : desired.isEmpty
  · simp only [enforceEntries, if_pos h]
  · simp only [enforceEntries, if_neg h, Option.getD_some, overlay_overlay]

/-- Labels and then annotations, as every workload gets them. -/
def Labelled.settled (labels object template : Dict String) (w : Labelled) : Labelled :=
  (w.withLabels labels).withAnnotations object template

theorem Labelled.settled_settled (labels object template : Dict String) (w : Labelled) :
    (w.settled labels object template).settled labels object template
      = w.settled labels object template := by
  simp only [settled, withLabels, withAnnotations, templateMeta, Option.getD_some,
    enforceEntries_enforceEntries]

end AgentOperator.Workload

namespace AgentOperator.Dataplane

open Kube (Affinity Container Deployment PodSpec Volume)
open Workload

/-! ## Volume plans -/

/-- What a volume of the plan writes. -/
def VolumePlan.entry : VolumePlan → Keyed.Entry volumeNaming
  | .secret name source =>
    { name
      change := fun v =>
        { v with
          secret := some
            { v.secret.getD {} with
              secretName := some source, defaultMode := some volumeMode,
              «optional» := some true } }
      key_change := fun _ => rfl
      change_change := fun _ => rfl }
  | .hostPath name path =>
    { name
      change := fun v => { v with hostPath := some { v.hostPath.getD {} with path } }
      key_change := fun _ => rfl
      change_change := fun _ => rfl }
  | .rootCAs =>
    { name := rootCAsVolume
      change := fun v =>
        let source := v.configMap.getD { name := configMapName, defaultMode := some volumeMode }
        { v with
          configMap := some { source with items := some (rootCAsItems (source.items.getD [])) } }
      key_change := fun _ => rfl
      change_change := fun _ => by simp only [Option.getD_some, rootCAsItems_rootCAsItems] }

@[simp] theorem VolumePlan.entry_name (p : VolumePlan) : p.entry.name = p.name := by
  cases p <;> rfl

theorem VolumePlan.apply_eq (p : VolumePlan) (pod : PodSpec) :
    p.apply pod = { pod with volumes := some (p.entry.write (pod.volumes.getD [])) } := by
  cases p <;> rfl

/-- The volumes a pod is left with by a plan that has some. -/
def settledVolumes (plans : List VolumePlan) (volumes : Option (List Volume)) : List Volume :=
  Keyed.settle (plans.map VolumePlan.entry) (volumes.getD [])

theorem VolumePlan.foldl_apply (p : VolumePlan) (plans : List VolumePlan) (pod : PodSpec) :
    (p :: plans).foldl (fun pod p => p.apply pod) pod
      = { pod with
          volumes := some (Keyed.writeAll ((p :: plans).map entry) (pod.volumes.getD [])) } := by
  induction plans generalizing p pod with
  | nil => exact p.apply_eq pod
  | cons q plans ih =>
    rw [List.foldl_cons, ih, p.apply_eq]
    rfl

theorem VolumePlan.applyAll_eq {plans : List VolumePlan} (h : plans ≠ []) (pod : PodSpec) :
    VolumePlan.applyAll plans pod
      = { pod with volumes := some (settledVolumes plans pod.volumes) } := by
  obtain ⟨p, plans, rfl⟩ := List.exists_cons_of_ne_nil h
  rw [applyAll, VolumePlan.foldl_apply, settledVolumes, Keyed.settle, resetVolumesUnless,
    List.length_map]
  split <;> rfl

theorem VolumePlan.map_entry_name (plans : List VolumePlan) :
    (plans.map entry).map (·.name) = plans.map name := by
  rw [List.map_map]
  exact List.map_congr_left fun p _ => p.entry_name

theorem settledVolumes_settled_iff {plans : List VolumePlan} (h : (plans.map (·.name)).Nodup)
    (volumes : Option (List Volume)) :
    settledVolumes plans (some (settledVolumes plans volumes)) = settledVolumes plans volumes
      ↔ ¬ volumeNaming.Stray (plans.map (·.name)) (volumes.getD []) := by
  have := Keyed.settle_settle_iff (plans.map VolumePlan.entry)
    (VolumePlan.map_entry_name plans ▸ h) (volumes.getD [])
  rwa [VolumePlan.map_entry_name] at this

/-! ## Deployment plans -/

/-- A plan with volumes, all of different names, and with a proper container. -/
structure DeploymentPlan.Proper (p : DeploymentPlan) : Prop where
  volumes_ne_nil : p.volumes ≠ []
  volumes_nodup : (p.volumes.map (·.name)).Nodup
  container : p.container.Proper

/-- The container of a pod that has just one, and a fresh one otherwise. -/
def onlyContainer (containers : List Container) : Container :=
  match containers with
  | [c] => c
  | _ => {}

/-- The pod of a deployment, if only an empty one. -/
def podOf (d : Deployment) : PodSpec := (d.spec.getD {}).template.spec.getD {}

/-- Whether the deployment has as many volumes as the plan but not those, or
its container as many mounts but not those. -/
def DeploymentPlan.Stray (p : DeploymentPlan) (d : Deployment) : Prop :=
  volumeNaming.Stray (p.volumes.map (·.name)) ((podOf d).volumes.getD []) ∨
    p.container.Stray (onlyContainer (podOf d).containers)

instance (p : DeploymentPlan) (d : Deployment) : Decidable (p.Stray d) :=
  inferInstanceAs (Decidable (_ ∨ _))

/-- The container a pod is left with. -/
def DeploymentPlan.settledContainer (p : DeploymentPlan) (spec : Agent.Spec)
    (containers : List Container) : Container :=
  p.container.apply spec { onlyContainer containers with name := p.name }

theorem DeploymentPlan.settledContainer_settled_iff {p : DeploymentPlan} (h : p.container.Proper)
    (spec : Agent.Spec) (containers : List Container) :
    p.settledContainer spec [p.settledContainer spec containers]
        = p.settledContainer spec containers
      ↔ ¬ p.container.Stray (onlyContainer containers) := by
  have hname : p.name = (p.settledContainer spec containers).name :=
    (ContainerPlan.apply_name h spec { onlyContainer containers with name := p.name }).symm
  have hagain : p.settledContainer spec [p.settledContainer spec containers]
      = p.container.apply spec (p.settledContainer spec containers) := by
    show p.container.apply spec { p.settledContainer spec containers with name := p.name } = _
    rw [hname]
  rw [hagain]
  exact ContainerPlan.apply_apply_iff h spec { onlyContainer containers with name := p.name }

theorem DeploymentPlan.applyPod_eq {p : DeploymentPlan} (h : p.volumes ≠ []) (spec : Agent.Spec)
    (pod : PodSpec) :
    p.applyPod spec pod
      = { pod with
          serviceAccountName := some p.account
          priorityClassName := some priorityClassName
          imagePullSecrets :=
            settledPullSecrets (imagePullSecrets spec p.pullSecrets) pod.imagePullSecrets
          volumes := some (settledVolumes p.volumes pod.volumes)
          affinity := some (settledAffinity [onLinux] p.affinity)
          nodeSelector := if p.nodeSelector.isEmpty then none else some p.nodeSelector
          containers := [p.settledContainer spec pod.containers] } := by
  simp only [applyPod, withPodIdentity, withImagePullSecrets_eq, VolumePlan.applyAll_eq h]
  rfl

theorem DeploymentPlan.applyPod_applyPod_iff {p : DeploymentPlan} (hp : p.Proper)
    (spec : Agent.Spec) (pod : PodSpec) :
    p.applyPod spec (p.applyPod spec pod) = p.applyPod spec pod
      ↔ ¬ (volumeNaming.Stray (p.volumes.map (·.name)) (pod.volumes.getD []) ∨
        p.container.Stray (onlyContainer pod.containers)) := by
  have hvolumes := settledVolumes_settled_iff hp.volumes_nodup pod.volumes
  have hcontainer := p.settledContainer_settled_iff hp.container spec pod.containers
  rw [not_or, ← hvolumes, ← hcontainer, applyPod_eq hp.volumes_ne_nil,
    applyPod_eq hp.volumes_ne_nil]
  simp only [settledPullSecrets_settled, PodSpec.mk.injEq, Option.some.injEq, List.cons.injEq,
    and_true, true_and]
  exact and_comm

theorem DeploymentPlan.apply_eq (p : DeploymentPlan) (spec : Agent.Spec) (d : Deployment) :
    p.apply spec d =
      let s := d.spec.getD {}
      let w := Labelled.settled (desiredLabels p.name p.labels) p.annotations
        p.templateAnnotations ⟨d.metadata, s.selector, s.template⟩
      { d with
        metadata := w.metadata
        spec := some
          { s with
            replicas := some p.replicas
            selector := w.selector
            template := { w.template with spec := some (p.applyPod spec (podOf d)) } } } := rfl

/-- Bringing a deployment to its plan a second time changes nothing exactly
when it was not stray. -/
theorem DeploymentPlan.apply_apply_iff {p : DeploymentPlan} (hp : p.Proper) (spec : Agent.Spec)
    (d : Deployment) : p.apply spec (p.apply spec d) = p.apply spec d ↔ ¬ p.Stray d := by
  rw [Stray, ← applyPod_applyPod_iff hp spec]
  have hpod : podOf (p.apply spec d) = p.applyPod spec (podOf d) := rfl
  constructor
  · intro h
    have := congrArg podOf h
    rwa [DeploymentPlan.apply_eq _ _ (p.apply spec d), hpod] at this
  · intro h
    rw [apply_eq p spec (p.apply spec d), hpod, h, apply_eq p spec d]
    have hw := Labelled.settled_settled (desiredLabels p.name p.labels) p.annotations
      p.templateAnnotations ⟨d.metadata, (d.spec.getD {}).selector, (d.spec.getD {}).template⟩
    simp only [Labelled.settled, Labelled.withLabels, Labelled.withAnnotations,
      Labelled.templateMeta, Option.getD_some, Labelled.mk.injEq] at hw ⊢
    obtain ⟨hmeta, hselector, htemplate⟩ := hw
    simp only [enforceEntries_enforceEntries]

/-! ## The five plans -/

theorem restricted_settles : ∃ change, restricted = withSecurity change ∧ Settles change :=
  ⟨fun s =>
    { s with
      allowPrivilegeEscalation := some false
      readOnlyRootFilesystem := some true
      runAsNonRoot := some true
      runAsUser := some 1500
      capabilities := some { add := none, drop := some ["ALL"] } },
    rfl, fun _ => rfl⟩

theorem lowPortBinding_settles :
    ∃ change, lowPortBinding = withSecurity change ∧ Settles change :=
  ⟨fun s =>
    { s with
      allowPrivilegeEscalation := some false
      readOnlyRootFilesystem := some true
      runAsUser := some 0
      capabilities := some { add := some ["NET_BIND_SERVICE"], drop := some ["ALL"] } },
    rfl, fun _ => rfl⟩

/-- A plan whose container mounts just the volumes of the pod. -/
theorem DeploymentPlan.Proper.of_names {p : DeploymentPlan} (names : List String)
    (hne : names ≠ []) (hnodup : names.Nodup) (hvolumes : p.volumes.map (·.name) = names)
    (hmounts : p.container.mounts.map (·.volume) = names)
    (hsecure : ∃ change, p.container.secure = withSecurity change ∧ Settles change) :
    p.Proper where
  volumes_ne_nil h := hne (by rw [← hvolumes, h]; rfl)
  volumes_nodup := hvolumes ▸ hnodup
  container :=
    { mounts_ne_nil := fun h => hne (by rw [← hmounts, h]; rfl)
      mounts_nodup := hmounts ▸ hnodup
      secure_settles := hsecure }

theorem monitorPlan_proper (spec : Agent.Spec) : (monitorPlan spec).Proper :=
  .of_names [rootCAsVolume] (by decide) (by decide) rfl rfl restricted_settles

theorem enforcerPlan_proper (spec : Agent.Spec) : (enforcerPlan spec).Proper :=
  .of_names [tlsVolume, rootCAsVolume] (by decide) (by decide) rfl rfl
    restricted_settles

theorem stateReporterPlan_proper (spec : Agent.Spec) : (stateReporterPlan spec).Proper :=
  .of_names [rootCAsVolume] (by decide) (by decide) rfl rfl restricted_settles

theorem resolverPlan_proper (nodes : Option UInt64) (spec : Agent.Spec) :
    (resolverPlan nodes spec).Proper :=
  .of_names [rootCAsVolume] (by decide) (by decide) rfl rfl restricted_settles

theorem imageScanningReporterPlan_proper (spec : Agent.Spec) :
    (imageScanningReporterPlan spec).Proper :=
  .of_names [tlsVolume, rootCAsVolume] (by decide) (by decide) rfl rfl
    lowPortBinding_settles

end AgentOperator.Dataplane
