import AgentOperator.Proofs.History

/-!
AgentOperator.Proofs.Fresh — what a spec makes of nothing, in particular.

An empty container gets the variables of its sources and no others: of two sources
with one name the later counts, so a variable has its value if all later sources are
silent about its name (`reads_of_getElem?`), and all entries of the config map it
refers to are among the known ones (`held_of_mem_env`). An empty pod gets just the
planned volumes, and an empty container just the planned mounts.
-/

namespace AgentOperator

theorem Dict.isSome_get?_ofList {V : Type u} {es : List (String × V)} {k : String}
    (hnodup : (es.map (·.1)).Nodup) (h : k ∈ es.map (·.1)) :
    ((Dict.ofList es).get? k).isSome = true := by
  obtain ⟨⟨k', v⟩, he, rfl⟩ := List.mem_map.1 h
  show (Entries.find? k' (Entries.ofList es)).isSome = true
  rw [Entries.find?_ofList k' hnodup]
  clear hnodup h
  induction es with
  | nil => cases he
  | cons e es ih =>
    rw [Entries.find?]
    split
    · rfl
    · rename_i hne
      rcases List.mem_cons.1 he with rfl | he
      · exact absurd rfl hne
      · exact ih he

end AgentOperator

namespace AgentOperator.Kube

/-- The container reads a variable, and reads only this value of it. -/
def Container.Reads (c : Container) (name text : String) : Prop :=
  Workload.plainVar name text ∈ c.env.getD [] ∧
    ∀ v ∈ c.env.getD [], v.name = name → v = Workload.plainVar name text

end AgentOperator.Kube

namespace AgentOperator.Workload

open Kube (Container EnvVar)
open Dataplane

variable {sources : List EnvSource} {name text : String} {v : EnvVar} {e : Env} {c : Container}

/-! ## Variables -/

/-- The source has no variable of the name. -/
def EnvSource.Silent (s : EnvSource) (name : String) : Prop := ∀ v ∈ s.vars, v.name ≠ name

theorem Env.get?_foldl_write {vs : List EnvVar} (h : ∀ v ∈ vs, v.name ≠ name) (e : Env) :
    (vs.foldl write e).vars.get? name = e.vars.get? name := by
  induction vs generalizing e with
  | nil => rfl
  | cons v vs ih =>
    obtain ⟨hv, hvs⟩ := List.forall_mem_cons.1 h
    rw [List.foldl_cons, ih hvs, write, Dict.get?_insert, if_neg hv]

theorem Env.get?_foldl_add (h : ∀ s ∈ sources, s.Silent name) (e : Env) :
    (sources.foldl add e).vars.get? name = e.vars.get? name := by
  induction sources generalizing e with
  | nil => rfl
  | cons s sources ih =>
    obtain ⟨hs, hsources⟩ := List.forall_mem_cons.1 h
    rw [List.foldl_cons, ih hsources, add, get?_foldl_write hs]

/-- A value counts if all later sources are silent about its name. -/
theorem Env.get?_ofSources {i : Nat} (hi : sources[i]? = some (.value name text))
    (h : ∀ s ∈ sources.drop (i + 1), s.Silent name) :
    (ofSources sources).vars.get? name = some (plainVar name text) := by
  obtain ⟨hlt, hget⟩ := List.getElem?_eq_some_iff.1 hi
  have hsplit : sources = sources.take i ++ .value name text :: sources.drop (i + 1) := by
    rw [← hget, List.getElem_cons_drop, List.take_append_drop]
  rw [hsplit, ofSources, List.foldl_append, List.foldl_cons, get?_foldl_add h]
  exact Dict.get?_insert_self _ name _

theorem Env.mem_build : v ∈ e.build ↔ ∃ k, e.vars.get? k = some v := by
  constructor
  · intro h
    obtain ⟨⟨k, w⟩, he, rfl⟩ := List.mem_map.1 h
    exact ⟨k, Entries.find?_of_mem e.vars.sorted he⟩
  · rintro ⟨k, h⟩
    exact List.mem_map.2 ⟨(k, v), Entries.find?_eq_some h, rfl⟩

theorem Env.mem_vars_of_foldl_write {vs : List EnvVar} {k : String}
    (h : (vs.foldl write e).vars.get? k = some v) : v ∈ vs ∨ e.vars.get? k = some v := by
  induction vs generalizing e with
  | nil => exact .inr h
  | cons w vs ih =>
    rcases ih h with hmem | hget
    · exact .inl (List.mem_cons_of_mem _ hmem)
    · rw [write, Dict.get?_insert] at hget
      split at hget
      · cases hget
        exact .inl (List.mem_cons_self ..)
      · exact .inr hget

theorem Env.mem_vars_of_foldl_add {k : String}
    (h : (sources.foldl add e).vars.get? k = some v) :
    (∃ s ∈ sources, v ∈ s.vars) ∨ e.vars.get? k = some v := by
  induction sources generalizing e with
  | nil => exact .inr h
  | cons s sources ih =>
    rcases ih h with ⟨s', hs', hv⟩ | hget
    · exact .inl ⟨s', List.mem_cons_of_mem _ hs', hv⟩
    · rcases mem_vars_of_foldl_write hget with hv | hget
      · exact .inl ⟨s, List.mem_cons_self .., hv⟩
      · exact .inr hget

/-- The variables of an empty container that was given sources are theirs. -/
theorem mem_vars_of_mem_env (hc : c.env = settledEnv (.ofSources sources) none)
    (hv : v ∈ c.env.getD []) : ∃ s ∈ sources, v ∈ s.vars := by
  rw [hc, settledEnv_none, Keyed.getD_unlessEmpty, Env.mem_build] at hv
  obtain ⟨k, hk⟩ := hv
  rcases Env.mem_vars_of_foldl_add hk with h | h
  · exact h
  · cases h

theorem reads_of_getElem? {i : Nat} (hc : c.env = settledEnv (.ofSources sources) none)
    (hi : sources[i]? = some (.value name text))
    (h : ∀ s ∈ sources.drop (i + 1), s.Silent name) : c.Reads name text := by
  have hget := Env.get?_ofSources hi h
  rw [Container.Reads, hc, settledEnv_none, Keyed.getD_unlessEmpty]
  refine ⟨Env.mem_build.2 ⟨name, hget⟩, fun v hv hname => ?_⟩
  obtain ⟨k, hk⟩ := Env.mem_build.1 hv
  cases (Env.proper_ofSources sources).named k v hk
  rw [hname, hget] at hk
  exact (Option.some.inj hk).symm

/-! ### Sources that are silent -/

@[simp] theorem silent_value {given text : String} :
    (EnvSource.value given text).Silent name ↔ given ≠ name :=
  List.forall_mem_singleton

@[simp] theorem silent_resource {given container amount : String} :
    (EnvSource.resource given container amount).Silent name ↔ given ≠ name :=
  List.forall_mem_singleton

@[simp] theorem silent_field {given path version : String} :
    (EnvSource.field given path version).Silent name ↔ given ≠ name :=
  List.forall_mem_singleton

@[simp] theorem silent_gatewayTls : EnvSource.gatewayTls.Silent name ↔
    "TLS_INSECURE_SKIP_VERIFY" ≠ name ∧ "TLS_ROOT_CAS_PATH" ≠ name := by
  simp [EnvSource.Silent, EnvSource.vars, gatewayTlsVars, configMapVar]

theorem silent_user {given : Dict String} (h : given.get? name = none) :
    (EnvSource.user given).Silent name := by
  intro v hv hname
  obtain ⟨⟨k, t⟩, he, rfl⟩ := List.mem_map.1 hv
  have hget : given.get? k = some t := Entries.find?_of_mem given.sorted he
  cases hname
  rw [show (plainVar k t).name = k from rfl, hget] at h
  cases h

theorem silent_proxy {settings : Agent.Proxy}
    (h : name ∉ ["HTTP_PROXY", "HTTPS_PROXY", "NO_PROXY"]) :
    (EnvSource.proxy settings).Silent name := by
  simp only [List.mem_cons, List.not_mem_nil, or_false, not_or] at h
  intro v hv
  simp only [EnvSource.vars, proxyVars] at hv
  split at hv
  · cases hv
  · simp only [List.mem_append, Option.mem_toList, Option.map_eq_some_iff] at hv
    rcases hv with (⟨text, -, rfl⟩ | ⟨text, -, rfl⟩) | hv
    · exact Ne.symm h.1
    · exact Ne.symm h.2.1
    · split at hv
      · cases hv
      · rw [List.mem_singleton.1 hv]
        exact Ne.symm h.2.2

/-! ### Entries of the config map -/

/-- A variable that refers to a config map refers to the dataplane's, and to a key that
it has. -/
def Configured (v : EnvVar) : Prop :=
  ∀ ref, v.valueFrom.bind (·.configMapKeyRef) = some ref →
    ref.name = configMapName ∧ ref.key ∈ configKeys

/-- Of all sources only one takes its key from the plan. -/
theorem configured_of_mem_vars {s : EnvSource}
    (hs : ∀ name key, s = .configMap name key → key ∈ configKeys) (h : v ∈ s.vars) :
    Configured v := by
  cases form_of_mem_vars h with
  | configMap name key hkey =>
    intro ref href
    cases href
    exact ⟨rfl, hkey.elim id (hs name key)⟩
  | _ => exact fun ref href => by cases href

end AgentOperator.Workload

namespace AgentOperator.Kube

/-- The pod that a workload makes, and an empty one for what is no workload. -/
def Object.pod (o : Object) : PodSpec := (o.template?.bind (·.spec)).getD {}

/-- The labels of the pods that a workload makes. -/
def Object.podLabels (o : Object) : Dict String :=
  ((o.template?.bind (·.metadata)).bind (·.labels)).getD ∅

theorem Object.pod_gist (o : Object) : o.gist.pod = o.pod.gist := by
  cases o with
  | deployment d => rcases d with ⟨m, _ | ⟨replicas, selector, ⟨tm, _ | pod⟩, rest⟩, status⟩ <;> rfl
  | daemonSet d => rcases d with ⟨m, _ | ⟨selector, ⟨tm, _ | pod⟩, rest⟩, status⟩ <;> rfl
  | _ => rfl

theorem Object.podLabels_gist (o : Object) : o.gist.podLabels = o.podLabels := by
  cases o with
  | deployment d => rcases d with ⟨m, _ | ⟨replicas, selector, ⟨_ | tm, pod⟩, rest⟩, status⟩ <;> rfl
  | daemonSet d => rcases d with ⟨m, _ | ⟨selector, ⟨_ | tm, pod⟩, rest⟩, status⟩ <;> rfl
  | _ => rfl

/-- Containers with the gists of others have their variables, ports and mounts. -/
theorem exists_of_map_gist_eq {cs ds : List Container}
    (h : cs.map Container.gist = ds.map Container.gist) {c : Container} (hc : c ∈ cs) :
    ∃ d ∈ ds, c.name = d.name ∧ c.env = d.env ∧ c.ports = d.ports ∧
      c.volumeMounts = d.volumeMounts := by
  have hmem : c.gist ∈ ds.map Container.gist := h ▸ List.mem_map_of_mem hc
  obtain ⟨d, hd, hgist⟩ := List.mem_map.1 hmem
  have hfields (c : Container) : c.gist.name = c.name ∧ c.gist.env = c.env ∧
      c.gist.ports = c.ports ∧ c.gist.volumeMounts = c.volumeMounts := ⟨rfl, rfl, rfl, rfl⟩
  obtain ⟨hname, henv, hports, hmounts⟩ := hfields c
  rw [← hgist] at hname henv hports hmounts
  exact ⟨d, hd, hname.symm, henv.symm, hports.symm, hmounts.symm⟩

end AgentOperator.Kube

namespace AgentOperator.Dataplane

open Kube (Container ContainerPort Object PodSpec SecretVolumeSource Volume VolumeMount)
open Workload

variable {c : Component} {s : Surroundings} {spec : Agent.Spec} {nodes : Option UInt64}
  {p : DeploymentPlan} {o f : Object} {v : Volume}

/-! ## Volumes and mounts -/

theorem settledVolumes_none {plans : List VolumePlan} (h : (plans.map (·.name)).Nodup) :
    settledVolumes plans none = plans.map fun p => p.entry.change { name := p.name } := by
  rw [settledVolumes, Option.getD_none, Keyed.settle_nil (VolumePlan.map_entry_name plans ▸ h),
    List.map_map]
  exact List.map_congr_left fun p _ => congrArg (fun name => p.entry.change { name }) p.entry_name

theorem settledMounts_none {plans : List MountPlan} (h : (plans.map (·.volume)).Nodup) :
    settledMounts plans none
      = plans.map fun m =>
          { name := m.volume, mountPath := m.path, readOnly := some m.readOnly } := by
  rw [settledMounts, Option.getD_none, Keyed.settle_nil (MountPlan.map_entry_name plans ▸ h),
    List.map_map]
  rfl

/-- A volume that shows the root certificates out of the dataplane's config map. -/
structure ShowsRootCAs (v : Volume) : Prop where
  name : v.name = rootCAsVolume
  source : ∃ source, v.configMap = some source ∧ source.name = configMapName ∧
    source.items = some [{ key := rootCAsFile, path := rootCAsFile }]

theorem showsRootCAs : ShowsRootCAs (VolumePlan.rootCAs.entry.change { name := rootCAsVolume }) :=
  ⟨rfl, _, rfl, rfl, rfl⟩

/-- Of planned volumes no other is from a config map. -/
theorem showsRootCAs_of_configMap {plan : VolumePlan}
    (h : (plan.entry.change { name := plan.name }).configMap ≠ none) :
    ShowsRootCAs (plan.entry.change { name := plan.name }) := by
  cases plan with
  | rootCAs => exact showsRootCAs
  | secret name source => exact absurd rfl h
  | hostPath name path => exact absurd rfl h

/-! ## Pods -/

/-- The pod that a component makes of nothing. -/
def Component.freshPod (c : Component) (nodes : Option UInt64) (spec : Agent.Spec) : PodSpec :=
  match c.deploymentPlan? nodes spec with
  | some p => p.applyPod spec {}
  | none => if c = .nodeAgent then withNodeAgentPod spec {} else {}

theorem Component.freshPod_of_deploymentPlan? (hp : c.deploymentPlan? nodes spec = some p) :
    c.freshPod nodes spec = p.applyPod spec {} := by
  simp only [freshPod, hp]

theorem Component.Change.pod {kubelet : String} (h : Component.Change s spec c o f)
    (ho : o = c.emptyObject kubelet) : f.pod = c.freshPod s.nodes spec := by
  cases h with
  | @deployment _ d p hp =>
    rw [emptyObject_of_deploymentPlan? hp] at ho
    cases ho
    rw [freshPod_of_deploymentPlan? hp]
    rfl
  | service d hp =>
    cases c <;> first | rfl | cases hp
  | nodeAgent d =>
    cases ho
    rfl
  | _ => rfl

theorem Component.Change.podLabels (h : Component.Change s spec c o f)
    (hp : c.deploymentPlan? s.nodes spec = some p) :
    f.podLabels = desiredLabels p.name p.labels := by
  cases h with
  | deployment d hp' =>
    cases hp.symm.trans hp'
    rfl
  | service d hp' =>
    cases c <;>
      simp only [Component.deploymentPlan?, Component.servicePlan?, reduceCtorEq] at hp hp'
  | _ => cases hp

theorem Component.Change.service_eq {kubelet : String} {q : ServicePlan}
    (h : Component.Change s spec c o f) (ho : o = c.emptyObject kubelet)
    (hq : c.servicePlan? spec = some q) : f = .service (q.apply {}) := by
  cases h with
  | service d hq' =>
    rw [emptyObject_of_servicePlan? hq] at ho
    cases ho
    cases hq.symm.trans hq'
    rfl
  | deployment d hp =>
    cases c <;> simp only [Component.deploymentPlan?, Component.servicePlan?, reduceCtorEq] at hp hq
  | _ => cases hq

/-- What an empty pod is brought to by a deployment's plan. -/
structure DeploymentPlan.Made (p : DeploymentPlan) (pod : PodSpec) (c : Container) : Prop where
  volumes : pod.volumes = some (p.volumes.map fun v => v.entry.change { name := v.name })
  containers : pod.containers = [c]
  env : c.env = settledEnv (.ofSources p.container.env) none
  ports : ∀ name port, p.container.port = some (name, port) →
    c.ports = some [{ name := some name, containerPort := port, protocol := some "TCP" }]
  mounts : c.volumeMounts = some (p.container.mounts.map fun m =>
    { name := m.volume, mountPath := m.path, readOnly := some m.readOnly })

theorem DeploymentPlan.exists_made (hp : p.Proper) (spec : Agent.Spec) :
    ∃ c, p.Made (p.applyPod spec {}) c := by
  obtain ⟨change, hsecure, -⟩ := hp.container.secure_settles
  have hvolumes := settledVolumes_none hp.volumes_nodup
  have hmounts := settledMounts_none hp.container.mounts_nodup
  rw [applyPod_eq hp.volumes_ne_nil, hvolumes]
  refine ⟨p.settledContainer spec [], rfl, rfl, ?_, fun name port hport => ?_, ?_⟩ <;>
    rw [settledContainer, ContainerPlan.apply_eq spec hp.container.mounts_ne_nil hsecure]
  · rfl
  · simp only [ContainerPlan.settled, hport]
    rfl
  · rw [← hmounts]
    rfl

theorem DeploymentPlan.applyPod_priorityClassName (hp : p.Proper) (spec : Agent.Spec) :
    (p.applyPod spec {}).priorityClassName = some priorityClassName := by
  rw [applyPod_eq hp.volumes_ne_nil]

/-! ## The node agent -/

theorem silent_of_mem_engineEnv {engine : Agent.ContainerEngine} {source : EnvSource}
    {name : String} (hs : source ∈ engineEnv engine)
    (hname : name ∉ ["CLUSTER_SCANNER_ENDPOINT", "CLUSTER_SCANNER_CONTAINER_RUNTIME"]) :
    source.Silent name := by
  unfold engineEnv at hs
  split at hs
  · rcases List.mem_pair.1 hs with rfl | rfl <;> simp at hname ⊢
    · exact fun h => hname.1 h.symm
    · exact fun h => hname.2 h.symm
  · cases hs

theorem withSensor_env (spec : Agent.Spec) (c : Container) :
    (withSensor spec c).env = settledEnv (.ofSources (sensorEnv spec)) c.env := by
  rw [withSensor_eq]
  rfl

theorem withScanner_env (spec : Agent.Spec) (c : Container) :
    (withScanner spec c).env = settledEnv (.ofSources (scannerEnv spec)) c.env := by
  rw [withScanner_eq]
  rfl

/-- A container of the empty node agent brought to a spec. -/
inductive AgentContainer (spec : Agent.Spec) : Container → Prop where
  | sensor (h : spec.components.runtimeProtection.enabled = true) :
    AgentContainer spec (withSensor spec { name := sensorContainerName })
  | scanner (h : spec.components.clusterScanning.enabled = true) :
    AgentContainer spec (withScanner spec { name := scannerContainerName })

theorem agentContainer_of_mem {d : Container}
    (h : d ∈ (withNodeAgentPod spec {}).containers) : AgentContainer spec d := by
  rw [withNodeAgentPod_eq] at h
  change d ∈ agentContainers spec [] at h
  rw [agentContainers_nil, containersIf] at h
  rcases List.mem_append.1 h with h | h <;> split at h
  · rename_i hon
    rw [List.mem_singleton.1 h]
    exact .sensor hon
  · cases h
  · rename_i hon
    rw [List.mem_singleton.1 h]
    exact .scanner hon
  · cases h

/-- The plans of the node agent's volumes. -/
def agentVolumePlans (spec : Agent.Spec) : List VolumePlan :=
  let scanning := spec.components.clusterScanning
  if scanning.enabled then scannerVolumes scanning.clusterScanner else []

theorem withNodeAgentPod_volumes (spec : Agent.Spec) :
    (withNodeAgentPod spec {}).volumes.getD []
      = (agentVolumePlans spec).map fun v => v.entry.change { name := v.name } := by
  rw [withNodeAgentPod_eq]
  simp only [agentVolumes, agentVolumePlans]
  split
  · exact settledVolumes_none (scannerVolumes_nodup _)
  · rfl

/-! ## All workloads -/

/-- The component's object makes pods. -/
def Component.IsWorkload (c : Component) : Prop := c.kind = .deployment ∨ c.kind = .daemonSet

/-- A workload is a deployment with a plan, or the node agent. -/
theorem Component.IsWorkload.cases (h : c.IsWorkload) (nodes : Option UInt64) (spec : Agent.Spec) :
    (∃ p, c.deploymentPlan? nodes spec = some p) ∨ c = .nodeAgent := by
  cases c <;> first
    | exact .inl ⟨_, rfl⟩
    | exact .inr rfl
    | exact absurd h (by simp [IsWorkload, kind])

theorem Component.freshPod_of_not_isWorkload (h : ¬ c.IsWorkload) : c.freshPod nodes spec = {} := by
  cases c <;> first
    | rfl
    | exact absurd h (by simp [IsWorkload, kind])

theorem Component.IsWorkload.freshPod_priorityClassName (h : c.IsWorkload) :
    (c.freshPod nodes spec).priorityClassName = some priorityClassName := by
  rcases h.cases nodes spec with ⟨p, hp⟩ | rfl
  · rw [freshPod_of_deploymentPlan? hp]
    exact DeploymentPlan.applyPod_priorityClassName (deploymentPlan?_proper hp) spec
  · show (withNodeAgentPod spec {}).priorityClassName = _
    rw [withNodeAgentPod_eq]

/-- Variables of a fresh pod refer to no entries but those of the config map. -/
theorem Component.configured_of_mem_freshPod {d : Container}
    (hd : d ∈ (c.freshPod nodes spec).containers) {v : Kube.EnvVar} (hv : v ∈ d.env.getD []) :
    Configured v := by
  by_cases hc : c.IsWorkload
  · rcases hc.cases nodes spec with ⟨p, hp⟩ | rfl
    · rw [freshPod_of_deploymentPlan? hp] at hd
      obtain ⟨d', hmade⟩ := DeploymentPlan.exists_made (deploymentPlan?_proper hp) spec
      rw [hmade.containers, List.mem_singleton] at hd
      subst hd
      obtain ⟨source, hsource, hv⟩ := mem_vars_of_mem_env hmade.env hv
      refine configured_of_mem_vars (fun name key hs => ?_) hv
      subst hs
      cases c <;> simp only [deploymentPlan?, Option.some.injEq, reduceCtorEq] at hp <;>
        subst hp <;> simp [monitorPlan, enforcerPlan, stateReporterPlan, resolverPlan,
          imageScanningReporterPlan] at hsource
      rcases hsource with ⟨-, rfl⟩ | ⟨-, rfl⟩ <;> decide
    · cases agentContainer_of_mem hd with
      | sensor h =>
        obtain ⟨source, hsource, hv⟩ := mem_vars_of_mem_env (withSensor_env spec _) hv
        refine configured_of_mem_vars (fun name key hs => ?_) hv
        subst hs
        simp [sensorEnv] at hsource
      | scanner h =>
        obtain ⟨source, hsource, hv⟩ := mem_vars_of_mem_env (withScanner_env spec _) hv
        refine configured_of_mem_vars (fun name key hs => ?_) hv
        subst hs
        simp [scannerEnv, engineEnv] at hsource
  · rw [freshPod_of_not_isWorkload hc] at hd
    cases hd

/-- Volumes of a fresh pod show nothing of config maps but the root certificates. -/
theorem Component.showsRootCAs_of_mem_freshPod (hv : v ∈ (c.freshPod nodes spec).volumes.getD [])
    (h : v.configMap ≠ none) : ShowsRootCAs v := by
  have hplanned (plans : List VolumePlan)
      (hv : v ∈ plans.map fun v => v.entry.change { name := v.name }) : ShowsRootCAs v := by
    obtain ⟨plan, -, rfl⟩ := List.mem_map.1 hv
    exact showsRootCAs_of_configMap h
  by_cases hc : c.IsWorkload
  · rcases hc.cases nodes spec with ⟨p, hp⟩ | rfl
    · rw [freshPod_of_deploymentPlan? hp] at hv
      obtain ⟨d, hmade⟩ := DeploymentPlan.exists_made (deploymentPlan?_proper hp) spec
      rw [hmade.volumes] at hv
      exact hplanned _ hv
    · exact hplanned _ (withNodeAgentPod_volumes spec ▸ hv)
  · rw [freshPod_of_not_isWorkload hc] at hv
    cases hv

/-- The deployments and the scanning node agent show the root certificates. -/
theorem Component.exists_showsRootCAs
    (h : c.kind = .deployment ∨ c = .nodeAgent ∧ spec.components.clusterScanning.enabled = true) :
    ∃ v ∈ (c.freshPod nodes spec).volumes.getD [], ShowsRootCAs v := by
  rcases h with hkind | ⟨rfl, hscanning⟩
  · obtain ⟨p, hp⟩ : ∃ p, c.deploymentPlan? nodes spec = some p := by
      cases c <;> first | exact ⟨_, rfl⟩ | cases hkind
    obtain ⟨d, hmade⟩ := DeploymentPlan.exists_made (deploymentPlan?_proper hp) spec
    rw [freshPod_of_deploymentPlan? hp, hmade.volumes]
    refine ⟨_, List.mem_map_of_mem (a := .rootCAs) ?_, showsRootCAs⟩
    cases c <;> simp only [deploymentPlan?, Option.some.injEq, reduceCtorEq] at hp <;> subst hp <;>
      simp [monitorPlan, enforcerPlan, stateReporterPlan, resolverPlan, imageScanningReporterPlan]
  · have hvolumes : (Component.nodeAgent.freshPod nodes spec).volumes.getD [] = _ :=
      withNodeAgentPod_volumes spec
    rw [hvolumes]
    refine ⟨_, List.mem_map_of_mem (a := .rootCAs) ?_, showsRootCAs⟩
    simp [agentVolumePlans, hscanning, scannerVolumes]

end AgentOperator.Dataplane
