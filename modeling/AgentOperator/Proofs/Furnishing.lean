import AgentOperator.Proofs.Fresh
import Mathlib.Data.List.Nodup

/-!
AgentOperator.Proofs.Furnishing — the volumes a pod is left with, and what its
containers mount of them.

A list that is settled by a plan holds exactly the names of the plan just if it was
not stray (`Keyed.exactly_settle_iff`): what a list of the right length held besides is
kept. Volumes and mounts are settled each by a count of their own, and what the plan does
not write, as the mounts of the sensor and of init containers, is kept in any case; so
a mount may be kept whose volume goes away. `Component.furnished_iff` says when that
happens.

Of the paths that the scanner mounts things at one is the user's. It is looked at by
nothing, and may be one of the others (`mountPaths_nodup_iff`).
-/

namespace AgentOperator.Keyed

variable {α : Type u} {N : Naming α} {es : List (Entry N)}

/-! ## Exactly the names of a plan -/

/-- Every wanted name once, and no other name. -/
def Naming.Exactly (N : Naming α) (wanted : List String) (xs : List α) : Prop :=
  ∀ name, (N.names xs).count name = if name ∈ wanted then 1 else 0

/-- What settling keeps of a list: all of it if it has the length of the plan. -/
def kept (count : Nat) (xs : List α) : List α := if xs.length = count then xs else []

theorem exactly_iff_perm {wanted : List String} (h : wanted.Nodup) (xs : List α) :
    N.Exactly wanted xs ↔ (N.names xs).Perm wanted := by
  rw [List.perm_iff_count]
  refine forall_congr' fun name => ?_
  rw [h.count]

/-- Settling leaves exactly the planned names just if the list was not stray. -/
theorem exactly_settle_iff (hes : (es.map (·.name)).Nodup) (xs : List α) :
    N.Exactly (es.map (·.name)) (settle es xs) ↔ ¬ N.Stray (es.map (·.name)) xs := by
  rw [exactly_iff_perm hes]
  constructor
  · intro hperm hstray
    have hlong := length_settle_of_stray hes hstray
    have hlen := hperm.length_eq
    rw [length_names, List.length_map] at hlen
    omega
  · intro hstray
    have hsub : es.map (·.name) ⊆ N.names (settle es xs) := mem_names_settle es xs
    have hlen := length_settle hes hstray
    refine (length_and_subset_iff_perm hes).1 ⟨?_, hsub⟩
    rw [length_names, List.length_map, hlen]

/-- A settled list has the names of the plan and those that were kept. -/
theorem mem_names_settle_iff (es : List (Entry N)) (xs : List α) (name : String) :
    name ∈ N.names (settle es xs)
      ↔ name ∈ es.map (·.name) ∨ name ∈ N.names (kept es.length xs) :=
  mem_names_writeAll es _ name

end AgentOperator.Keyed

namespace AgentOperator.Kube

open Workload

/-! ## What the containers of a pod mount -/

/-- The names of the volumes a container mounts. -/
def Container.mounted (k : Container) : List String := mountNaming.names (k.volumeMounts.getD [])

/-- The names of the volumes mounted by a container that is carried along as it was
read. -/
def mountedByCarried (k : Json) : List String :=
  (((k.get? "volumeMounts").bind Json.asArray?).getD []).filterMap fun m =>
    (m.get? "name").bind Json.asString?

/-- The names of the volumes mounted by the containers that a pod runs besides its main
ones. -/
def PodSpec.mountedBeside (pod : PodSpec) : List String :=
  let carried := Json.object (Schema.encodeFields _ pod.rest.values)
  ["initContainers", "ephemeralContainers"].flatMap fun member =>
    (((carried.get? member).bind Json.asArray?).getD []).flatMap mountedByCarried

/-- Every volume mount of every container names a volume of the pod. -/
def PodSpec.Backed (pod : PodSpec) : Prop :=
  ∀ name ∈ pod.containers.flatMap Container.mounted ++ pod.mountedBeside,
    name ∈ volumeNaming.names (pod.volumes.getD [])

@[simp] theorem Object.pod_deployment (d : Deployment) :
    (Object.deployment d).pod = Dataplane.podOf d := by
  rcases d with ⟨m, _ | spec, status⟩ <;> rfl

@[simp] theorem Object.pod_daemonSet (d : DaemonSet) :
    (Object.daemonSet d).pod = Dataplane.agentPodOf d := by
  rcases d with ⟨m, _ | spec, status⟩ <;> rfl

end AgentOperator.Kube

namespace AgentOperator.Dataplane

open Kube (Container Object PodSpec VolumeMount)
open Workload

variable {c : Component} {s : Surroundings} {spec : Agent.Spec} {nodes : Option UInt64}
  {o o₁ : Object} {pod pod₁ : PodSpec}

/-! ## What a workload plans -/

/-- The volumes that a workload plans for its pod. -/
def Component.volumePlans (c : Component) (nodes : Option UInt64) (spec : Agent.Spec) :
    List VolumePlan :=
  match c.deploymentPlan? nodes spec with
  | some p => p.volumes
  | none => agentVolumePlans spec

/-- The mounts that a workload plans for the container of a name, if it writes them at
all: the sensor's it does not. -/
def Component.mountPlans? (c : Component) (nodes : Option UInt64) (spec : Agent.Spec)
    (container : String) : Option (List MountPlan) :=
  match c.deploymentPlan? nodes spec with
  | some p => some p.container.mounts
  | none =>
    if container = scannerContainerName then
      some (scannerMounts spec.components.clusterScanning.clusterScanner)
    else none

/-- The containers a workload starts from, some kept and some new. -/
def Component.keptContainers (c : Component) (nodes : Option UInt64) (spec : Agent.Spec)
    (stored : List Container) : List Container :=
  match c.deploymentPlan? nodes spec with
  | some p => [{ onlyContainer stored with name := p.name }]
  | none => selectContainers (wantedContainers spec) stored

/-- The mounts that one of these containers is left with. -/
def Component.mountsOf (c : Component) (nodes : Option UInt64) (spec : Agent.Spec)
    (k : Container) : List VolumeMount :=
  match c.mountPlans? nodes spec k.name with
  | some plans => settledMounts plans k.volumeMounts
  | none => k.volumeMounts.getD []

/-- The volumes that one of these containers goes on mounting for no reason but that it
did before. -/
def Component.keptMounts (c : Component) (nodes : Option UInt64) (spec : Agent.Spec)
    (k : Container) : List String :=
  match c.mountPlans? nodes spec k.name with
  | some plans => mountNaming.names (Keyed.kept plans.length (k.volumeMounts.getD []))
  | none => k.mounted

theorem Component.volumePlans_nodup (c : Component) (nodes : Option UInt64) (spec : Agent.Spec) :
    ((c.volumePlans nodes spec).map (·.name)).Nodup := by
  unfold volumePlans
  split
  · rename_i p hp
    exact (deploymentPlan?_proper hp).volumes_nodup
  · by_cases hon : spec.components.clusterScanning.enabled = true
    · simp only [agentVolumePlans, hon, if_true]
      exact scannerVolumes_nodup _
    · simp only [agentVolumePlans, if_neg hon]
      exact List.nodup_nil

theorem Component.mountPlans?_nodup {container : String} {plans : List MountPlan}
    (h : c.mountPlans? nodes spec container = some plans) : (plans.map (·.volume)).Nodup := by
  unfold mountPlans? at h
  split at h
  · rename_i p hp
    cases h
    exact (deploymentPlan?_proper hp).container.mounts_nodup
  · split at h
    · cases h
      exact scannerMounts_nodup _
    · cases h

/-- A deployment mounts just the volumes it plans. -/
theorem Component.deploymentPlan?_mounts {p : DeploymentPlan}
    (hp : c.deploymentPlan? nodes spec = some p) :
    p.container.mounts.map (·.volume) = p.volumes.map (·.name) := by
  cases c <;> simp only [deploymentPlan?, Option.some.injEq, reduceCtorEq] at hp <;> subst hp <;>
    rfl

/-- What is planned to be mounted is among the planned volumes. -/
theorem Component.mountPlans?_subset {stored : List Container} {k : Container}
    {plans : List MountPlan} (hk : k ∈ c.keptContainers nodes spec stored)
    (h : c.mountPlans? nodes spec k.name = some plans) :
    plans.map (·.volume) ⊆ (c.volumePlans nodes spec).map (·.name) := by
  unfold mountPlans? at h
  unfold volumePlans
  unfold keptContainers at hk
  cases hp : c.deploymentPlan? nodes spec with
  | some p =>
    simp only [hp, Option.some.injEq] at h
    subst h
    rw [deploymentPlan?_mounts hp]
    exact List.Subset.refl _
  | none =>
    simp only [hp, Option.ite_none_right_eq_some, Option.some.injEq] at h hk
    obtain ⟨hname, rfl⟩ := h
    have hwanted := (complete_selectContainers (wantedContainers spec) stored).mem_wanted
      (wantedContainers_nodup spec) hk
    have hon := (scanner_mem_wantedContainers spec).1 (hname ▸ hwanted)
    simp only [agentVolumePlans, hon, if_true]
    rw [scannerMounts_names, scannerVolumes_names]
    intro name hmem
    simp only [List.mem_append, List.mem_cons, List.not_mem_nil, or_false] at hmem ⊢
    tauto

/-! ## What a workload is left with -/

/-- How a workload furnishes a pod. -/
structure Component.Furnishes (c : Component) (nodes : Option UInt64) (spec : Agent.Spec)
    (pod pod₁ : PodSpec) : Prop where
  volumes : pod₁.volumes.getD [] = settledVolumes (c.volumePlans nodes spec) pod.volumes
  containers : pod₁.containers.map (fun k => (k.name, k.volumeMounts.getD []))
    = (c.keptContainers nodes spec pod.containers).map fun k => (k.name, c.mountsOf nodes spec k)
  rest : pod₁.rest = pod.rest

theorem DeploymentPlan.furnishes {p : DeploymentPlan} (hp : c.deploymentPlan? nodes spec = some p)
    (pod : PodSpec) : c.Furnishes nodes spec pod (p.applyPod spec pod) := by
  have hproper := Component.deploymentPlan?_proper hp
  obtain ⟨change, hsecure, -⟩ := hproper.container.secure_settles
  rw [applyPod_eq hproper.volumes_ne_nil]
  refine ⟨?_, ?_, rfl⟩
  · simp only [Component.volumePlans, hp, Option.getD_some]
  · simp only [Component.keptContainers, Component.mountsOf, Component.mountPlans?, hp,
      settledContainer, ContainerPlan.apply_eq spec hproper.container.mounts_ne_nil hsecure]
    rfl

/-- Of the containers of the node agent only the scanner's mounts are written. -/
theorem withAgent_volumeMounts (nodes : Option UInt64) (spec : Agent.Spec) (k : Container) :
    (withAgent spec k).volumeMounts.getD [] = Component.nodeAgent.mountsOf nodes spec k := by
  have hne : ¬ sensorContainerName = scannerContainerName := by decide
  have hplans : Component.nodeAgent.deploymentPlan? nodes spec = none := rfl
  simp only [Component.mountsOf, Component.mountPlans?, hplans, withAgent]
  by_cases hsensor : k.name = sensorContainerName
  · simp only [hsensor, if_true, if_neg hne, withSensor_volumeMounts]
  · by_cases hscanner : k.name = scannerContainerName
    · simp only [hscanner, if_neg (Ne.symm hne), if_true, withScanner_eq, Option.getD_some]
    · simp only [if_neg hsensor, if_neg hscanner]

theorem withNodeAgentPod_furnishes (pod : PodSpec) :
    Component.nodeAgent.Furnishes nodes spec pod (withNodeAgentPod spec pod) := by
  have hplans : Component.nodeAgent.deploymentPlan? nodes spec = none := rfl
  rw [withNodeAgentPod_eq]
  refine ⟨?_, ?_, rfl⟩
  · simp only [Component.volumePlans, hplans, agentVolumePlans, agentVolumes]
    split
    · rfl
    · simp only [settledVolumes, Keyed.settle, List.map_nil, Keyed.writeAll, List.foldl_nil]
      split
      · rename_i hlen
        exact (List.eq_nil_of_length_eq_zero hlen).symm
      · rfl
  · simp only [Component.keptContainers, hplans, agentContainers_eq_map, List.map_map]
    refine List.map_congr_left fun k _ => ?_
    simp only [Function.comp_apply, withAgent_name, withAgent_volumeMounts nodes]

theorem Component.IsWorkload.servicePlan?_eq_none (hc : c.IsWorkload) :
    c.servicePlan? spec = none := by
  cases c <;> first
    | rfl
    | exact absurd hc (by simp [IsWorkload, kind])

/-- Bringing a workload to the spec furnishes its pod. -/
theorem Component.Change.furnishes (hc : c.IsWorkload) (h : Component.Change s spec c o o₁) :
    c.Furnishes s.nodes spec o.pod o₁.pod := by
  cases h with
  | @deployment _ d p hp =>
    rw [Object.pod_deployment, Object.pod_deployment]
    exact DeploymentPlan.furnishes hp (podOf d)
  | nodeAgent d =>
    rw [Object.pod_daemonSet, Object.pod_daemonSet]
    exact withNodeAgentPod_furnishes (agentPodOf d)
  | service d hp =>
    rw [hc.servicePlan?_eq_none] at hp
    cases hp
  | _ => exact absurd hc (by simp [IsWorkload, kind])

/-! ## Whether it is what was planned -/

theorem exactly_settledVolumes_iff {plans : List VolumePlan} (h : (plans.map (·.name)).Nodup)
    (volumes : Option (List Kube.Volume)) :
    volumeNaming.Exactly (plans.map (·.name)) (settledVolumes plans volumes)
      ↔ ¬ volumeNaming.Stray (plans.map (·.name)) (volumes.getD []) := by
  have hsettled := Keyed.exactly_settle_iff (VolumePlan.map_entry_name plans ▸ h)
    (volumes.getD [])
  rwa [VolumePlan.map_entry_name] at hsettled

theorem exactly_settledMounts_iff {plans : List MountPlan} (h : (plans.map (·.volume)).Nodup)
    (mounts : Option (List VolumeMount)) :
    mountNaming.Exactly (plans.map (·.volume)) (settledMounts plans mounts)
      ↔ ¬ mountNaming.Stray (plans.map (·.volume)) (mounts.getD []) := by
  have hsettled := Keyed.exactly_settle_iff (MountPlan.map_entry_name plans ▸ h) (mounts.getD [])
  rwa [MountPlan.map_entry_name] at hsettled

/-- The volumes a container mounts in the end: the planned ones, and those that were kept. -/
theorem Component.mem_names_mountsOf_iff {k : Container} {name : String} :
    name ∈ mountNaming.names (c.mountsOf nodes spec k)
      ↔ (∃ plans, c.mountPlans? nodes spec k.name = some plans ∧ name ∈ plans.map (·.volume)) ∨
        name ∈ c.keptMounts nodes spec k := by
  cases hplans : c.mountPlans? nodes spec k.name with
  | some plans =>
    have hsettled := Keyed.mem_names_settle_iff (plans.map MountPlan.entry)
      (k.volumeMounts.getD []) name
    rw [MountPlan.map_entry_name, List.length_map] at hsettled
    simp only [mountsOf, keptMounts, hplans, Option.some.injEq, exists_eq_left']
    exact hsettled
  | none => simp only [mountsOf, keptMounts, hplans, reduceCtorEq, false_and, exists_false,
      false_or, Container.mounted]

namespace Component.Furnishes

variable (h : c.Furnishes nodes spec pod pod₁)

include h

/-- What holds of all names and mounts of the containers in the end is to be asked of the
containers started from. -/
theorem forall_containers_iff {P : String → List VolumeMount → Prop} :
    (∀ k ∈ pod₁.containers, P k.name (k.volumeMounts.getD []))
      ↔ ∀ k ∈ c.keptContainers nodes spec pod.containers,
          P k.name (c.mountsOf nodes spec k) := by
  have hpairs : (∀ e ∈ pod₁.containers.map fun k => (k.name, k.volumeMounts.getD []), P e.1 e.2)
      ↔ ∀ e ∈ (c.keptContainers nodes spec pod.containers).map
          fun k => (k.name, c.mountsOf nodes spec k), P e.1 e.2 := by
    rw [h.containers]
  simpa only [List.forall_mem_map] using hpairs

theorem exactly_volumes_iff :
    volumeNaming.Exactly ((c.volumePlans nodes spec).map (·.name)) (pod₁.volumes.getD [])
      ↔ ¬ volumeNaming.Stray ((c.volumePlans nodes spec).map (·.name)) (pod.volumes.getD []) := by
  rw [h.volumes]
  exact exactly_settledVolumes_iff (c.volumePlans_nodup nodes spec) pod.volumes

theorem exactly_mounts_iff :
    (∀ k ∈ pod₁.containers, ∀ plans, c.mountPlans? nodes spec k.name = some plans →
        mountNaming.Exactly (plans.map (·.volume)) (k.volumeMounts.getD []))
      ↔ ∀ k ∈ c.keptContainers nodes spec pod.containers, ∀ plans,
          c.mountPlans? nodes spec k.name = some plans →
            ¬ mountNaming.Stray (plans.map (·.volume)) (k.volumeMounts.getD []) := by
  have hcontainers := h.forall_containers_iff (P := fun name mounts => ∀ plans,
    c.mountPlans? nodes spec name = some plans →
      mountNaming.Exactly (plans.map (·.volume)) mounts)
  refine hcontainers.trans (forall₂_congr fun k _ => forall₂_congr fun plans hplans => ?_)
  have hmounts : c.mountsOf nodes spec k = settledMounts plans k.volumeMounts := by
    simp only [mountsOf, hplans]
  rw [hmounts]
  exact exactly_settledMounts_iff (mountPlans?_nodup hplans) k.volumeMounts

/-- The names of the volumes in the end. -/
theorem mem_names_volumes_iff {name : String} :
    name ∈ volumeNaming.names (pod₁.volumes.getD [])
      ↔ name ∈ (c.volumePlans nodes spec).map (·.name) ∨
        name ∈ volumeNaming.names
          (Keyed.kept (c.volumePlans nodes spec).length (pod.volumes.getD [])) := by
  have hsettled := Keyed.mem_names_settle_iff ((c.volumePlans nodes spec).map VolumePlan.entry)
    (pod.volumes.getD []) name
  rw [VolumePlan.map_entry_name, List.length_map] at hsettled
  rwa [h.volumes]

/-- Only mounts that were kept can be of volumes that are not there. -/
theorem backed_iff :
    pod₁.Backed
      ↔ ∀ name ∈ (c.keptContainers nodes spec pod.containers).flatMap (c.keptMounts nodes spec) ++
            pod.mountedBeside,
          name ∈ (c.volumePlans nodes spec).map (·.name) ∨
            name ∈ volumeNaming.names
              (Keyed.kept (c.volumePlans nodes spec).length (pod.volumes.getD [])) := by
  have hbeside : pod₁.mountedBeside = pod.mountedBeside := by
    rw [PodSpec.mountedBeside, PodSpec.mountedBeside, h.rest]
  have hcontainers := h.forall_containers_iff
    (P := fun _ mounts => ∀ name ∈ mountNaming.names mounts,
      name ∈ volumeNaming.names (pod₁.volumes.getD []))
  simp only [PodSpec.Backed, List.forall_mem_append, List.forall_mem_flatMap, hbeside]
  refine and_congr (hcontainers.trans (forall₂_congr fun k hk => ?_))
    (forall₂_congr fun name _ => h.mem_names_volumes_iff)
  simp only [mem_names_mountsOf_iff, h.mem_names_volumes_iff]
  constructor
  · exact fun hall name hname => hall name (.inr hname)
  · rintro hall name (⟨plans, hplans, hname⟩ | hname)
    · exact .inl (mountPlans?_subset hk hplans hname)
    · exact hall name hname

end Component.Furnishes

/-- **What a workload is furnished with.** Its pod has exactly the planned volumes just if
the stored ones were not stray, every container whose mounts are written has exactly the
planned ones just if the mounts it started from were not stray, and all mounts have their
volumes just if those that were kept have. -/
theorem Component.furnished_iff (hc : c.IsWorkload) (h : c.mutate s spec o = .ok o₁) :
    let volumes := c.volumePlans s.nodes spec
    let containers := c.keptContainers s.nodes spec o.pod.containers
    (volumeNaming.Exactly (volumes.map (·.name)) (o₁.pod.volumes.getD [])
      ↔ ¬ volumeNaming.Stray (volumes.map (·.name)) (o.pod.volumes.getD [])) ∧
    ((∀ k ∈ o₁.pod.containers, ∀ mounts, c.mountPlans? s.nodes spec k.name = some mounts →
        mountNaming.Exactly (mounts.map (·.volume)) (k.volumeMounts.getD []))
      ↔ ∀ k ∈ containers, ∀ mounts, c.mountPlans? s.nodes spec k.name = some mounts →
        ¬ mountNaming.Stray (mounts.map (·.volume)) (k.volumeMounts.getD [])) ∧
    (o₁.pod.Backed
      ↔ ∀ name ∈ containers.flatMap (c.keptMounts s.nodes spec) ++ o.pod.mountedBeside,
        name ∈ volumes.map (·.name) ∨
          name ∈ volumeNaming.names (Keyed.kept volumes.length (o.pod.volumes.getD []))) := by
  have hfurnishes := (c.change_of_mutate h).furnishes hc
  exact ⟨hfurnishes.exactly_volumes_iff, hfurnishes.exactly_mounts_iff, hfurnishes.backed_iff⟩

/-- A deployment whose pod has some volumes, and its container some mounts. -/
def furnishedWith (volumes mounts : List String) : Object :=
  .deployment
    { spec := some
        { template :=
            { spec := some
                { volumes := some (volumes.map volumeNaming.fresh)
                  containers :=
                    [{ volumeMounts := some (mounts.map mountNaming.fresh) }] } } } }

/-- Of a monitor that has two of each nothing is kept, and all is as planned. -/
theorem furnished_monitor :
    Component.monitor.IsWorkload ∧
      ∃ o₁, Component.monitor.mutate {} default (furnishedWith ["a", "b"] ["a", "b"]) = .ok o₁ ∧
        volumeNaming.Exactly [rootCAsVolume] (o₁.pod.volumes.getD []) ∧
        (∀ k ∈ o₁.pod.containers, ∀ mounts,
          Component.monitor.mountPlans? none default k.name = some mounts →
            mountNaming.Exactly (mounts.map (·.volume)) (k.volumeMounts.getD [])) ∧
        o₁.pod.Backed := by
  have h : Component.Change {} default .monitor (furnishedWith ["a", "b"] ["a", "b"])
      (.deployment ((monitorPlan default).apply default _)) := .deployment _ rfl
  obtain ⟨hvolumes, hmounts, hbacked⟩ := Component.furnished_iff (.inl rfl) h.mutate
  refine ⟨.inl rfl, _, h.mutate, hvolumes.2 (by decide), hmounts.2 ?_, hbacked.2 (by decide)⟩
  intro k hk mounts hplans
  cases List.mem_singleton.1 hk
  cases hplans
  decide

/-- The monitor wants one mount and one volume: the one stale mount stays, and of the two
stale volumes neither does. -/
theorem monitor_mounts_dropped_volume :
    ∃ o₁, Component.monitor.mutate {} default (furnishedWith ["a", "b"] ["a"]) = .ok o₁ ∧
      ¬ (∀ k ∈ o₁.pod.containers, ∀ mounts,
        Component.monitor.mountPlans? none default k.name = some mounts →
          mountNaming.Exactly (mounts.map (·.volume)) (k.volumeMounts.getD [])) ∧
      ¬ o₁.pod.Backed := by
  have h : Component.Change {} default .monitor (furnishedWith ["a", "b"] ["a"])
      (.deployment ((monitorPlan default).apply default _)) := .deployment _ rfl
  have hfurnishes := h.furnishes (.inl rfl)
  refine ⟨_, h.mutate, ?_, ?_⟩
  · rw [hfurnishes.exactly_mounts_iff]
    exact fun hall => hall _ (List.mem_singleton_self _) _ rfl (by decide)
  · rw [hfurnishes.backed_iff]
    decide

/-! ## Where the scanner mounts things -/

/-- The paths that the scanner mounts things at whatever the user gives. -/
def fixedMountPaths : List String :=
  rootCAsDirectory :: knownSockets.map (·.2) ++
    [Agent.crioDefaults.storagePath, Agent.crioDefaults.storageConfigPath,
      Agent.crioDefaults.configPath]

/-- The one path the user gives is to be none of the fixed ones. -/
theorem scannerMounts_paths_nodup_iff (scanner : Agent.ClusterScanner) :
    ((scannerMounts scanner).map (·.path)).Nodup
      ↔ scanner.k8sContainerEngine.endpoint ∉ fixedMountPaths := by
  have hpaths : (scannerMounts scanner).map (·.path)
      = rootCAsDirectory :: (engineSockets scanner).map (·.2) ++
        [Agent.crioDefaults.storagePath, Agent.crioDefaults.storageConfigPath,
          Agent.crioDefaults.configPath] := by
    simp only [scannerMounts, List.map_append, List.map_cons, List.map_map]
    rfl
  rw [hpaths, engineSockets]
  by_cases h : scanner.k8sContainerEngine.endpoint = ""
  · rw [if_pos h, h]
    decide
  · rw [if_neg h, List.map_append, List.map_singleton, ← List.cons_append, List.append_assoc,
      List.singleton_append, List.nodup_middle, List.nodup_cons]
    exact and_iff_left (by decide)

theorem withScanner_mountPaths (spec : Agent.Spec) (name : String) :
    ((withScanner spec { name }).volumeMounts.getD []).map (·.mountPath)
      = (scannerMounts spec.components.clusterScanning.clusterScanner).map (·.path) := by
  rw [withScanner_eq, Option.getD_some, settledMounts_none (scannerMounts_nodup _), List.map_map]
  rfl

/-- The scanner of a new node agent, and no other container of its name. -/
theorem filter_scanner_withNodeAgent (hon : spec.components.clusterScanning.enabled = true) :
    (Object.daemonSet (withNodeAgent spec {})).pod.containers.filter
        (namedContainer scannerContainerName)
      = [withScanner spec { name := scannerContainerName }] := by
  have hcontainers : (withNodeAgentPod spec {}).containers = agentContainers spec [] := by
    rw [withNodeAgentPod_eq]
  have hpod : agentPodOf (withNodeAgent spec {}) = withNodeAgentPod spec {} := rfl
  have hne : ¬ sensorContainerName = scannerContainerName := by decide
  rw [Object.pod_daemonSet, hpod, hcontainers, agentContainers_nil, containersIf, hon]
  cases spec.components.runtimeProtection.enabled <;>
    simp [namedContainer, withSensor_name, withScanner_name, hne]

/-- **Where the scanner of a new node agent mounts things.** The paths are all different just
if the user's engine is at none of the fixed ones. -/
theorem mountPaths_nodup_iff (s : Surroundings) (spec : Agent.Spec) (kubelet : String)
    (hon : spec.components.clusterScanning.enabled = true) :
    ∃ o₁ k, Component.nodeAgent.mutate s spec (Component.nodeAgent.emptyObject kubelet) = .ok o₁ ∧
      o₁.pod.containers.filter (namedContainer scannerContainerName) = [k] ∧
      (((k.volumeMounts.getD []).map (·.mountPath)).Nodup
        ↔ spec.components.clusterScanning.clusterScanner.k8sContainerEngine.endpoint
          ∉ fixedMountPaths) := by
  have h : Component.Change s spec .nodeAgent (.daemonSet {})
      (.daemonSet (withNodeAgent spec {})) := .nodeAgent {}
  refine ⟨_, _, h.mutate, filter_scanner_withNodeAgent hon, ?_⟩
  rw [withScanner_mountPaths]
  exact scannerMounts_paths_nodup_iff _

/-- A spec with a container engine at some endpoint. -/
def engineAt (endpoint : String) : Agent.Spec :=
  { account := "acc"
    clusterName := "c"
    version := "1.0.0"
    components :=
      { clusterScanning :=
          { clusterScanner :=
              { k8sContainerEngine := { endpoint, engineType := "cri-o" } } } } }

theorem mountPaths_nodup_custom :
    (engineAt "/run/custom.sock").withDefaults.validate = .ok () ∧
      (engineAt "/run/custom.sock").withDefaults.components.clusterScanning.enabled = true ∧
      ∃ o₁ k, Component.nodeAgent.mutate {} (engineAt "/run/custom.sock").withDefaults
          (Component.nodeAgent.emptyObject "") = .ok o₁ ∧
        o₁.pod.containers.filter (namedContainer scannerContainerName) = [k] ∧
        ((k.volumeMounts.getD []).map (·.mountPath)).Nodup := by
  obtain ⟨o₁, k, hmutate, hscanner, hpaths⟩ := mountPaths_nodup_iff {}
    (engineAt "/run/custom.sock").withDefaults "" rfl
  exact ⟨rfl, rfl, o₁, k, hmutate, hscanner, hpaths.2 (by decide)⟩

/-- A well-known socket may be given as the engine's endpoint, and is then mounted twice
at one path. -/
theorem mountPaths_collide_crio :
    (engineAt "/var/run/crio/crio.sock").withDefaults.validate = .ok () ∧
      ∃ o₁ k, Component.nodeAgent.mutate {} (engineAt "/var/run/crio/crio.sock").withDefaults
          (Component.nodeAgent.emptyObject "") = .ok o₁ ∧
        o₁.pod.containers.filter (namedContainer scannerContainerName) = [k] ∧
        ¬ ((k.volumeMounts.getD []).map (·.mountPath)).Nodup := by
  refine ⟨rfl, _, _, (Component.Change.nodeAgent {}).mutate, filter_scanner_withNodeAgent rfl, ?_⟩
  rw [withScanner_mountPaths, scannerMounts_paths_nodup_iff]
  decide

end AgentOperator.Dataplane
