import AgentOperator.Dataplane.NodeAgent
import AgentOperator.Proofs.Deployments
import Mathlib.Data.List.Infix
import Mathlib.Data.List.Perm.Subperm

/-!
AgentOperator.Proofs.NodeAgent — what is written into the daemon set of the
node agent.

Its pod keeps the containers of the enabled components. Once they are selected
(`Complete`) they are selected again as they are, and the changes of the sensor
and of the scanner, being changes of containers of different names, do not see
each other. So the daemon set too is left alone the second time exactly when
volumes and mounts were not stray (`withNodeAgent_withNodeAgent_iff`).
-/

namespace AgentOperator.Workload

open Kube (Container)

/-- Containers are told apart by their names. -/
def containerNaming : Keyed.Naming Container where
  key := (·.name)
  fresh name := { name }
  key_fresh _ := rfl

end AgentOperator.Workload

namespace AgentOperator.Dataplane

open Kube (Container DaemonSet PodSpec Volume)
open Workload

/-! ## Entries of enabled components -/

theorem get?_entriesIf (enabled : Bool) (d : Dict String) (key : String) :
    (entriesIf enabled d).get? key = if enabled then d.get? key else none := by
  cases enabled <;> rfl

/-! ## Selecting containers -/

/-- Exactly the wanted containers, in any order. -/
def Complete (wanted : List String) (containers : List Container) : Prop :=
  containers.length = wanted.length ∧ ∀ name ∈ wanted, name ∈ containerNaming.names containers

theorem takeContainer?_some {name : String} {stored rest : List Container} {c : Container}
    (h : takeContainer? name stored = some (c, rest)) :
    c.name = name ∧ c ∈ stored ∧ ∀ d ∈ rest, d ∈ stored := by
  simp only [takeContainer?, Option.bind_eq_bind, Option.bind_eq_some_iff, Option.pure_def,
    Option.some.injEq, Prod.mk.injEq] at h
  obtain ⟨i, hi, c', hc, last, hlast, rfl, rfl⟩ := h
  obtain ⟨hlt, hnamed, -⟩ := List.findIdx?_eq_some_iff_getElem.1 hi
  obtain ⟨-, rfl⟩ := List.getElem?_eq_some_iff.1 hc
  refine ⟨by simpa [namedContainer] using hnamed, List.getElem_mem hlt, ?_⟩
  intro d hd
  rcases List.mem_or_eq_of_mem_set (List.mem_of_mem_dropLast hd) with hd | rfl
  · exact hd
  · exact List.mem_of_getLast? hlast

/-- The carried containers have just the wanted names. -/
theorem names_carryOver (wanted : List String) (stored : List Container) :
    containerNaming.names (carryOver wanted stored) = wanted := by
  induction wanted generalizing stored with
  | nil => rfl
  | cons name wanted ih =>
    rw [carryOver]
    split
    · rename_i c rest htake
      have hname := (takeContainer?_some htake).1
      have hrest := ih rest
      simp only [Keyed.Naming.names, List.map_cons, List.cons.injEq] at hrest ⊢
      exact ⟨hname, hrest⟩
    · have hrest := ih stored
      simp only [Keyed.Naming.names, List.map_cons, List.cons.injEq] at hrest ⊢
      exact ⟨rfl, hrest⟩

/-- A carried container is a stored one or a fresh one. -/
theorem mem_carryOver {wanted : List String} {stored : List Container} {c : Container}
    (h : c ∈ carryOver wanted stored) : c ∈ stored ∨ ∃ name, c = { name } := by
  induction wanted generalizing stored with
  | nil => cases h
  | cons name wanted ih =>
    rw [carryOver] at h
    split at h
    · rename_i d rest htake
      obtain ⟨-, hd, hrest⟩ := takeContainer?_some htake
      rcases List.mem_cons.1 h with rfl | h
      · exact .inl hd
      · exact (ih h).imp_left (hrest c)
    · rcases List.mem_cons.1 h with rfl | h
      · exact .inr ⟨name, rfl⟩
      · exact ih h

/-- The check that a list of containers is left as it is. -/
theorem complete_iff (wanted : List String) (stored : List Container) :
    (stored.length = wanted.length ∧
        (wanted.all fun name => stored.any (namedContainer name)) = true)
      ↔ Complete wanted stored := by
  simp only [Complete, List.all_eq_true, List.any_eq_true, Keyed.Naming.mem_names_iff,
    namedContainer, decide_eq_true_eq]
  rfl

theorem selectContainers_of_complete {wanted : List String} {stored : List Container}
    (h : Complete wanted stored) : selectContainers wanted stored = stored := by
  rw [selectContainers, if_pos ((complete_iff wanted stored).2 h)]

theorem complete_selectContainers (wanted : List String) (stored : List Container) :
    Complete wanted (selectContainers wanted stored) := by
  by_cases h : Complete wanted stored
  · rwa [selectContainers_of_complete h]
  · rw [selectContainers, if_neg (mt (complete_iff wanted stored).1 h)]
    have hnames := names_carryOver wanted stored
    refine ⟨?_, fun name hname => by rwa [hnames]⟩
    rw [← Keyed.length_names (N := containerNaming), hnames]

theorem mem_selectContainers {wanted : List String} {stored : List Container} {c : Container}
    (h : c ∈ selectContainers wanted stored) : c ∈ stored ∨ ∃ name, c = { name } := by
  rw [selectContainers] at h
  split at h
  · exact .inl h
  · exact mem_carryOver h

/-- A complete list has the wanted names in some order. -/
theorem Complete.perm {wanted : List String} {containers : List Container}
    (hnodup : wanted.Nodup) (h : Complete wanted containers) :
    wanted.Perm (containerNaming.names containers) := by
  have hlen : (containerNaming.names containers).length = wanted.length := by
    rw [Keyed.length_names, h.1]
  exact ((Keyed.length_and_subset_iff_perm hnodup).1 ⟨hlen, h.2⟩).symm

/-- Of a complete list no container has an unwanted name. -/
theorem Complete.mem_wanted {wanted : List String} {containers : List Container}
    (hnodup : wanted.Nodup) (h : Complete wanted containers) {c : Container}
    (hc : c ∈ containers) : c.name ∈ wanted :=
  (h.perm hnodup).symm.subset (Keyed.Naming.mem_names_iff.2 ⟨c, hc, rfl⟩)

theorem Complete.names_nodup {wanted : List String} {containers : List Container}
    (hnodup : wanted.Nodup) (h : Complete wanted containers) :
    (containerNaming.names containers).Nodup := (h.perm hnodup).nodup_iff.1 hnodup

/-- Only the names matter to whether a list is complete. -/
theorem Complete.of_names {wanted : List String} {cs ds : List Container}
    (hnames : containerNaming.names ds = containerNaming.names cs) (h : Complete wanted cs) :
    Complete wanted ds := by
  have hlen := congrArg List.length hnames
  rw [Keyed.length_names, Keyed.length_names] at hlen
  exact ⟨hlen.trans h.1, hnames ▸ h.2⟩

theorem wantedContainers_nodup (spec : Agent.Spec) : (wantedContainers spec).Nodup := by
  unfold wantedContainers
  cases spec.components.runtimeProtection.enabled <;>
    cases spec.components.clusterScanning.enabled <;> decide

/-- The scanner is wanted just if it is enabled. -/
theorem scanner_mem_wantedContainers (spec : Agent.Spec) :
    scannerContainerName ∈ wantedContainers spec ↔
      spec.components.clusterScanning.enabled = true := by
  unfold wantedContainers
  cases spec.components.runtimeProtection.enabled <;>
    cases spec.components.clusterScanning.enabled <;> decide

/-! ## Volumes and mounts of the scanner -/

theorem engineSockets_names (scanner : Agent.ClusterScanner) :
    (engineSockets scanner).map (·.1)
      = knownSockets.map (·.1) ++
        if scanner.k8sContainerEngine.endpoint = "" then []
        else ["configured-container-runtime-endpoint"] := by
  simp only [engineSockets, List.map_append]
  split <;> rfl

/-- The names of the scanner's volumes depend only on whether the user gives a
socket. -/
theorem scannerVolumes_names (scanner : Agent.ClusterScanner) :
    (scannerVolumes scanner).map (·.name)
      = (engineSockets scanner).map (·.1) ++
        [crioStorageVolume, crioStorageConfigVolume, crioConfigVolume, rootCAsVolume] := by
  simp only [scannerVolumes, List.map_append, List.map_map]
  rfl

theorem scannerMounts_names (scanner : Agent.ClusterScanner) :
    (scannerMounts scanner).map (·.volume)
      = rootCAsVolume :: (engineSockets scanner).map (·.1) ++
        [crioStorageVolume, crioStorageConfigVolume, crioConfigVolume] := by
  simp only [scannerMounts, List.map_append, List.map_cons, List.map_map]
  rfl

theorem scannerVolumes_nodup (scanner : Agent.ClusterScanner) :
    ((scannerVolumes scanner).map (·.name)).Nodup := by
  rw [scannerVolumes_names, engineSockets_names]
  split <;> decide

theorem scannerMounts_nodup (scanner : Agent.ClusterScanner) :
    ((scannerMounts scanner).map (·.volume)).Nodup := by
  rw [scannerMounts_names, engineSockets_names]
  split <;> decide

/-- The volumes the daemon set's pod is left with. -/
def agentVolumes (spec : Agent.Spec) (volumes : Option (List Volume)) : Option (List Volume) :=
  let scanning := spec.components.clusterScanning
  if scanning.enabled then
    some (settledVolumes (scannerVolumes scanning.clusterScanner) volumes)
  else none

theorem withNodeAgentVolumes_eq (spec : Agent.Spec) (pod : PodSpec) :
    withNodeAgentVolumes spec pod = { pod with volumes := agentVolumes spec pod.volumes } := by
  have hne : scannerVolumes spec.components.clusterScanning.clusterScanner ≠ [] := by
    simp [scannerVolumes]
  simp only [withNodeAgentVolumes, agentVolumes, VolumePlan.applyAll_eq hne]
  split <;> rfl

/-! ## The sensor -/

/-- The metrics port of a container, if it has one. -/
def settledMetricsPort (p : Agent.Prometheus) (ports : Option (List Kube.ContainerPort)) :
    Option (List Kube.ContainerPort) :=
  if p.enabled then some [settledPort metricsPortName p.port ports] else none

theorem withMetricsPort_eq (p : Agent.Prometheus) (c : Container) :
    withMetricsPort p c = { c with ports := settledMetricsPort p c.ports } := by
  simp only [withMetricsPort, settledMetricsPort, withSinglePort_eq, withoutPorts]
  split <;> rfl

theorem settledMetricsPort_settled (p : Agent.Prometheus)
    (ports : Option (List Kube.ContainerPort)) :
    settledMetricsPort p (settledMetricsPort p ports) = settledMetricsPort p ports := by
  simp only [settledMetricsPort]
  split
  · rw [settledPort_settled]
  · rfl

/-- Where the variables of the sensor are from. -/
def sensorEnv (spec : Agent.Spec) : List EnvSource :=
  let runtime := spec.components.runtimeProtection
  let sensor := runtime.sensor
  [.value "RUNTIME_KUBERNETES_SENSOR_GRPC_PORT" (intText runtime.internalGrpcPort),
    .value "RUNTIME_KUBERNETES_SENSOR_RESOLVER_ADDRESS"
      (serviceAddress resolverName spec.namespace),
    .value "RUNTIME_KUBERNETES_SENSOR_RESOLVER_CONNECTION_TIMEOUT_SECONDS" "60",
    .value "RUNTIME_KUBERNETES_SENSOR_LIVENESS_PATH" sensor.probes.livenessPath,
    .value "RUNTIME_KUBERNETES_SENSOR_READINESS_PATH" sensor.probes.readinessPath,
    .value "RUNTIME_KUBERNETES_SENSOR_LOG_LEVEL" sensor.logLevel,
    .proxy spec.components.settings.proxy,
    .user sensor.env]

/-- What the sensor's container is left with. -/
def sensorSettled (spec : Agent.Spec) (c : Container) : Container :=
  let sensor := spec.components.runtimeProtection.sensor
  { c with
    resources := settledResources sensor.resources c.resources
    command := some ["/run_sensor.sh"]
    image :=
      some (fullImage sensor.image spec.version spec.components.settings.defaultImagesRegistry)
    imagePullPolicy := some sensor.image.pullPolicy
    readinessProbe := some
      (fileProbe sensor.probes.readinessPath sensor.probes.timing (c.readinessProbe.getD {}))
    livenessProbe := some
      (fileProbe sensor.probes.livenessPath sensor.probes.timing (c.livenessProbe.getD {}))
    ports := settledMetricsPort sensor.prometheus c.ports
    env := settledEnv (.ofSources (sensorEnv spec)) c.env
    securityContext := some
      { c.securityContext.getD {} with privileged := some true, runAsUser := some 0 } }

theorem withSensor_eq (spec : Agent.Spec) (c : Container) :
    withSensor spec c = sensorSettled spec c := by
  simp only [withSensor, sensorSettled, sensorEnv, withResources_eq, withImage, withFileProbes,
    withMetricsPort_eq, withEnv_eq, privileged, withSecurity]

theorem withSensor_withSensor (spec : Agent.Spec) (c : Container) :
    withSensor spec (withSensor spec c) = withSensor spec c := by
  simp only [withSensor_eq, sensorSettled, settledResources_settled, settledEnv_settled,
    settledMetricsPort_settled, Option.getD_some, fileProbe_fileProbe]

theorem withSensor_name (spec : Agent.Spec) (c : Container) :
    (withSensor spec c).name = c.name := by
  rw [withSensor_eq]
  rfl

theorem withSensor_volumeMounts (spec : Agent.Spec) (c : Container) :
    (withSensor spec c).volumeMounts = c.volumeMounts := by
  rw [withSensor_eq]
  rfl

theorem withSensor_keeps (spec : Agent.Spec) : containerNaming.Keeps (withSensor spec) := by
  intro c
  rw [withSensor_eq]
  rfl

/-! ## The scanner -/

/-- Whether the container has as many mounts as the scanner needs, but not
those. -/
def StrayMounts (spec : Agent.Spec) (c : Container) : Prop :=
  mountNaming.Stray
    ((scannerMounts spec.components.clusterScanning.clusterScanner).map (·.volume))
    (c.volumeMounts.getD [])

instance (spec : Agent.Spec) (c : Container) : Decidable (StrayMounts spec c) :=
  inferInstanceAs (Decidable (mountNaming.Stray _ _))

theorem scannerMounts_ne_nil (scanner : Agent.ClusterScanner) : scannerMounts scanner ≠ [] := by
  simp [scannerMounts]

/-- What the scanner's container is left with besides its mounts. -/
def scannerSettled (spec : Agent.Spec) (c : Container) : Container :=
  let scanner := spec.components.clusterScanning.clusterScanner
  { c with
    resources := settledResources scanner.resources c.resources
    image :=
      some (fullImage scanner.image spec.version spec.components.settings.defaultImagesRegistry)
    imagePullPolicy := some scanner.image.pullPolicy
    readinessProbe := some
      (fileProbe scanner.probes.readinessPath scanner.probes.timing (c.readinessProbe.getD {}))
    livenessProbe := some
      (fileProbe scanner.probes.livenessPath scanner.probes.timing (c.livenessProbe.getD {}))
    ports := settledMetricsPort scanner.prometheus c.ports
    env := settledEnv (.ofSources (scannerEnv spec)) c.env
    securityContext := some
      { c.securityContext.getD {} with privileged := some true, runAsUser := some 0 } }

theorem scannerSettled_settled (spec : Agent.Spec) (c : Container) :
    scannerSettled spec (scannerSettled spec c) = scannerSettled spec c := by
  simp only [scannerSettled, settledResources_settled, settledEnv_settled,
    settledMetricsPort_settled, Option.getD_some, fileProbe_fileProbe]

theorem withScanner_eq (spec : Agent.Spec) (c : Container) :
    withScanner spec c
      = { scannerSettled spec c with
          volumeMounts := some (settledMounts
            (scannerMounts spec.components.clusterScanning.clusterScanner) c.volumeMounts) } := by
  simp only [withScanner, scannerSettled, withResources_eq, withImage, withFileProbes,
    withMetricsPort_eq, withEnv_eq, privileged, withSecurity,
    MountPlan.applyAll_eq (scannerMounts_ne_nil _)]

theorem withScanner_name (spec : Agent.Spec) (c : Container) :
    (withScanner spec c).name = c.name := by
  rw [withScanner_eq]
  rfl

theorem withScanner_keeps (spec : Agent.Spec) : containerNaming.Keeps (withScanner spec) := by
  intro c
  rw [withScanner_eq]
  rfl

theorem withScanner_withScanner_iff (spec : Agent.Spec) (c : Container) :
    withScanner spec (withScanner spec c) = withScanner spec c ↔ ¬ StrayMounts spec c := by
  have hmounts := settledMounts_settled_iff
    (scannerMounts_nodup spec.components.clusterScanning.clusterScanner) c.volumeMounts
  have hrest := scannerSettled_settled spec c
  rw [StrayMounts, ← hmounts, withScanner_eq, withScanner_eq]
  constructor
  · intro h
    simpa using congrArg Container.volumeMounts h
  · intro h
    rw [h]
    exact congrArg (fun d : Container => { d with
      volumeMounts := some (settledMounts
        (scannerMounts spec.components.clusterScanning.clusterScanner) c.volumeMounts) }) hrest

/-! ## The containers of the pod -/

/-- The containers the daemon set's pod is left with. -/
def agentContainers (spec : Agent.Spec) (containers : List Container) : List Container :=
  Keyed.modify (namedContainer scannerContainerName) (withScanner spec) <|
    Keyed.modify (namedContainer sensorContainerName) (withSensor spec) <|
      selectContainers (wantedContainers spec) containers

theorem names_agentContainers (spec : Agent.Spec) (containers : List Container) :
    containerNaming.names (agentContainers spec containers)
      = containerNaming.names (selectContainers (wantedContainers spec) containers) := by
  have hscanner := Keyed.names_modify (withScanner_keeps spec) scannerContainerName
  have hsensor := Keyed.names_modify (withSensor_keeps spec) sensorContainerName
  exact (hscanner _).trans (hsensor _)

theorem complete_agentContainers (spec : Agent.Spec) (containers : List Container) :
    Complete (wantedContainers spec) (agentContainers spec containers) :=
  (complete_selectContainers (wantedContainers spec) containers).of_names
    (names_agentContainers spec containers)

/-- Brings a container to the spec, as what its name says it is. -/
def withAgent (spec : Agent.Spec) (c : Container) : Container :=
  if c.name = sensorContainerName then withSensor spec c
  else if c.name = scannerContainerName then withScanner spec c
  else c

theorem withAgent_name (spec : Agent.Spec) (c : Container) :
    (withAgent spec c).name = c.name := by
  unfold withAgent
  split
  · exact withSensor_name spec c
  · split
    · exact withScanner_name spec c
    · rfl

/-- Of the selected containers no two have one name, so that each is changed on its
own. -/
theorem agentContainers_eq_map (spec : Agent.Spec) (containers : List Container) :
    agentContainers spec containers
      = (selectContainers (wantedContainers spec) containers).map (withAgent spec) := by
  have hnodup := (complete_selectContainers (wantedContainers spec) containers).names_nodup
    (wantedContainers_nodup spec)
  have hsensor := Keyed.modify_eq_map hnodup sensorContainerName (withSensor spec)
  have hscanner := Keyed.modify_eq_map
    ((Keyed.names_modify (withSensor_keeps spec) sensorContainerName _).symm ▸ hnodup)
    scannerContainerName (withScanner spec)
  have hfold : agentContainers spec containers
      = Keyed.modify (containerNaming.test scannerContainerName) (withScanner spec)
          (Keyed.modify (containerNaming.test sensorContainerName) (withSensor spec)
            (selectContainers (wantedContainers spec) containers)) := rfl
  rw [hfold, hscanner, hsensor, List.map_map]
  refine List.map_congr_left fun c _ => ?_
  have hname : containerNaming.key (withSensor spec c) = c.name := withSensor_keeps spec c
  have hne : ¬ sensorContainerName = scannerContainerName := by decide
  by_cases h : c.name = sensorContainerName
  · have hkey : containerNaming.key c = sensorContainerName := h
    simp only [Function.comp_apply, withAgent, if_pos hkey, hname]
    rw [if_pos h, if_neg (h ▸ hne)]
  · have hkey : ¬ containerNaming.key c = sensorContainerName := h
    simp only [Function.comp_apply, withAgent, if_neg hkey, if_neg h]
    rfl

/-- The container the scanner is made of. -/
def scannerContainer? (spec : Agent.Spec) (containers : List Container) : Option Container :=
  (selectContainers (wantedContainers spec) containers).find? (namedContainer scannerContainerName)

theorem enabled_of_scannerContainer? {spec : Agent.Spec} {containers : List Container}
    {c : Container} (h : scannerContainer? spec containers = some c) :
    spec.components.clusterScanning.enabled = true := by
  have hname : c.name = scannerContainerName := by
    simpa [namedContainer] using List.find?_some h
  have hwanted := (complete_selectContainers (wantedContainers spec) containers).mem_wanted
    (wantedContainers_nodup spec) (List.mem_of_find?_eq_some h)
  exact (scanner_mem_wantedContainers spec).1 (hname ▸ hwanted)

theorem agentContainers_agentContainers_iff (spec : Agent.Spec) (containers : List Container) :
    agentContainers spec (agentContainers spec containers) = agentContainers spec containers
      ↔ ∀ c, scannerContainer? spec containers = some c → ¬ StrayMounts spec c := by
  have hne : scannerContainerName ≠ sensorContainerName := by decide
  have hselect := selectContainers_of_complete (complete_agentContainers spec containers)
  let selected := selectContainers (wantedContainers spec) containers
  -- Both changes are made twice; sorted by container, each meets itself.
  have hcomm := Keyed.modify_modify_comm (withScanner_keeps spec) (withSensor_keeps spec) hne
  have hsensor : Keyed.modify (containerNaming.test sensorContainerName) (withSensor spec)
        (Keyed.modify (containerNaming.test sensorContainerName) (withSensor spec) selected)
      = Keyed.modify (containerNaming.test sensorContainerName) (withSensor spec) selected := by
    rw [Keyed.modify_modify (withSensor_keeps spec)]
    exact (Keyed.modify_eq_modify_iff _ _).2 fun c _ => withSensor_withSensor spec c
  have htwice : agentContainers spec (agentContainers spec containers)
      = Keyed.modify (containerNaming.test scannerContainerName)
          (withScanner spec ∘ withScanner spec)
          (Keyed.modify (containerNaming.test sensorContainerName) (withSensor spec) selected) := by
    have hagain : agentContainers spec (agentContainers spec containers)
        = Keyed.modify (containerNaming.test scannerContainerName) (withScanner spec)
            (Keyed.modify (containerNaming.test sensorContainerName) (withSensor spec)
              (selectContainers (wantedContainers spec) (agentContainers spec containers))) := rfl
    have honce : agentContainers spec containers
        = Keyed.modify (containerNaming.test scannerContainerName) (withScanner spec)
            (Keyed.modify (containerNaming.test sensorContainerName) (withSensor spec)
              selected) := rfl
    rw [hagain, hselect, honce]
    rw [← hcomm, hsensor, Keyed.modify_modify (withScanner_keeps spec)]
  rw [htwice]
  refine (Keyed.modify_eq_modify_iff _ _).trans ?_
  rw [Keyed.find?_modify_of_ne (withSensor_keeps spec) hne]
  exact forall₂_congr fun c _ => withScanner_withScanner_iff spec c

/-! ## The daemon set -/

/-- The pod of a daemon set, if only an empty one. -/
def agentPodOf (d : DaemonSet) : PodSpec := (d.spec.getD {}).template.spec.getD {}

/-- Whether the scanner is enabled and the pod has as many volumes as it needs
but not those, or its container as many mounts but not those. -/
def StrayAgent (spec : Agent.Spec) (d : DaemonSet) : Prop :=
  spec.components.clusterScanning.enabled = true ∧
    (volumeNaming.Stray
        ((scannerVolumes spec.components.clusterScanning.clusterScanner).map (·.name))
        ((agentPodOf d).volumes.getD []) ∨
      ∃ c, scannerContainer? spec (agentPodOf d).containers = some c ∧ StrayMounts spec c)

theorem withNodeAgentPod_eq (spec : Agent.Spec) (pod : PodSpec) :
    withNodeAgentPod spec pod =
      let runtime := spec.components.runtimeProtection
      { pod with
        serviceAccountName := some nodeAgentAccount
        priorityClassName := some priorityClassName
        imagePullSecrets :=
          settledPullSecrets (imagePullSecrets spec runtime.sensor.image.pullSecrets)
            pod.imagePullSecrets
        dnsPolicy := some (if runtime.enabled then "ClusterFirstWithHostNet" else "ClusterFirst")
        hostNetwork := if runtime.enabled then some true else none
        hostPID := if runtime.enabled then some true else none
        volumes := agentVolumes spec pod.volumes
        tolerations := Keyed.unlessEmpty spec.components.settings.daemonSetsTolerations
        containers := agentContainers spec pod.containers
        affinity := some (settledAffinity [onLinux] pod.affinity) } := by
  simp only [withNodeAgentPod, withPodIdentity, withImagePullSecrets_eq, withNodeAgentVolumes_eq]
  rfl

theorem agentVolumes_agentVolumes_iff (spec : Agent.Spec) (volumes : Option (List Volume)) :
    agentVolumes spec (agentVolumes spec volumes) = agentVolumes spec volumes
      ↔ ¬ (spec.components.clusterScanning.enabled = true ∧ volumeNaming.Stray
        ((scannerVolumes spec.components.clusterScanning.clusterScanner).map (·.name))
        (volumes.getD [])) := by
  have hsettled := settledVolumes_settled_iff
    (scannerVolumes_nodup spec.components.clusterScanning.clusterScanner) volumes
  by_cases h : spec.components.clusterScanning.enabled
  · simpa [agentVolumes, h] using hsettled
  · simp [agentVolumes, h]

theorem withNodeAgentPod_twice_iff (spec : Agent.Spec) (pod : PodSpec) :
    withNodeAgentPod spec (withNodeAgentPod spec pod) = withNodeAgentPod spec pod
      ↔ ¬ (spec.components.clusterScanning.enabled = true ∧
        (volumeNaming.Stray
            ((scannerVolumes spec.components.clusterScanning.clusterScanner).map (·.name))
            (pod.volumes.getD []) ∨
          ∃ c, scannerContainer? spec pod.containers = some c ∧ StrayMounts spec c)) := by
  have hvolumes := agentVolumes_agentVolumes_iff spec pod.volumes
  have hcontainers := agentContainers_agentContainers_iff spec pod.containers
  have hfields : withNodeAgentPod spec (withNodeAgentPod spec pod) = withNodeAgentPod spec pod
      ↔ agentVolumes spec (agentVolumes spec pod.volumes) = agentVolumes spec pod.volumes ∧
        agentContainers spec (agentContainers spec pod.containers)
          = agentContainers spec pod.containers := by
    rw [withNodeAgentPod_eq, withNodeAgentPod_eq]
    simp only [settledPullSecrets_settled, settledAffinity_settled, PodSpec.mk.injEq, true_and,
      and_true]
    exact and_comm
  rw [hfields, hvolumes, hcontainers]
  constructor
  · rintro ⟨hv, hc⟩ ⟨hon, hstray | ⟨c, hfind, hstray⟩⟩
    · exact hv ⟨hon, hstray⟩
    · exact hc c hfind hstray
  · intro h
    refine ⟨fun ⟨hon, hstray⟩ => h ⟨hon, .inl hstray⟩, fun c hfind hstray => ?_⟩
    exact h ⟨enabled_of_scannerContainer? hfind, .inr ⟨c, hfind, hstray⟩⟩

theorem withNodeAgent_eq (spec : Agent.Spec) (d : DaemonSet) :
    withNodeAgent spec d =
      let s := d.spec.getD {}
      let w := Labelled.settled (desiredLabels nodeAgentName (nodeAgentLabels spec))
        (nodeAgentAnnotations spec) (nodeAgentTemplateAnnotations spec)
        ⟨d.metadata, s.selector, s.template⟩
      { d with
        metadata := w.metadata
        spec := some
          { s with
            selector := w.selector
            template :=
              { w.template with spec := some (withNodeAgentPod spec (agentPodOf d)) } } } := rfl

/-- Bringing the daemon set to the spec a second time changes nothing exactly
when it was not stray. -/
theorem withNodeAgent_withNodeAgent_iff (spec : Agent.Spec) (d : DaemonSet) :
    withNodeAgent spec (withNodeAgent spec d) = withNodeAgent spec d ↔ ¬ StrayAgent spec d := by
  rw [StrayAgent, ← withNodeAgentPod_twice_iff]
  have hpod : agentPodOf (withNodeAgent spec d) = withNodeAgentPod spec (agentPodOf d) := rfl
  constructor
  · intro h
    have := congrArg agentPodOf h
    rwa [withNodeAgent_eq spec (withNodeAgent spec d), hpod] at this
  · intro h
    rw [withNodeAgent_eq spec (withNodeAgent spec d), hpod, h, withNodeAgent_eq spec d]
    simp only [Labelled.settled, Labelled.withLabels, Labelled.withAnnotations,
      Labelled.templateMeta, Option.getD_some, enforceEntries_enforceEntries]

end AgentOperator.Dataplane
