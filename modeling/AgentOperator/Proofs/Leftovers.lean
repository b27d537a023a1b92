import AgentOperator.Proofs.Anchors
import AgentOperator.Proofs.Furnishing

/-!
AgentOperator.Proofs.Leftovers — members that stay when those beside them are written.

What is found by its name is changed in place, and members that are not written stay as
they were. That may be wrong where members belong together: the number of a port and that
on the host (`hostPortsFollow_iff`), or members of which there may be only one. Of a probe
the other handlers give way, but of a volume the other sources do not, nor does the address
of a webhook (`Component.alternatives_iff`).
-/

namespace AgentOperator.Kube

/-! ## Host ports -/

/-- If a port has a number on the host, it is its own. -/
def ContainerPort.Follows (p : ContainerPort) : Prop :=
  ∀ n, p.hostPort = some n → n = p.containerPort

def Container.HostPortsFollow (k : Container) : Prop := ∀ p ∈ k.ports.getD [], p.Follows

/-- On the network of the host no port may have another number there. -/
def PodSpec.HostPortsFollow (pod : PodSpec) : Prop := ∀ k ∈ pod.containers, k.HostPortsFollow

end AgentOperator.Kube

namespace AgentOperator.Workload

open Kube (Container ContainerPort)

/-- The port of a container keeps its number on the host, and follows just if it keeps its
own number too. -/
theorem settledPort_follows_iff (name : String) (port : Int32)
    {ports : Option (List ContainerPort)} (h : ∀ p ∈ ports.getD [], p.Follows) :
    (settledPort name port ports).Follows
      ↔ ∀ p, ports = some [p] → p.name = some name → p.hostPort ≠ none →
        p.containerPort = port := by
  have hfresh (hkept : keptPort name ports = { name := some name }) :
      (settledPort name port ports).Follows := by
    intro n hn
    simp only [settledPort, hkept, reduceCtorEq] at hn
  -- Only a port that is the only one and has the name is kept.
  rcases ports with _ | _ | ⟨p, _ | ⟨p', rest⟩⟩
  case none => exact iff_of_true (hfresh rfl) fun q hq => by cases hq
  case some.nil => exact iff_of_true (hfresh rfl) fun q hq => by cases hq
  case some.cons.cons => exact iff_of_true (hfresh rfl) fun q hq => by cases hq
  case some.cons.nil =>
    by_cases hname : p.name = some name
    · have hkept : keptPort name (some [p]) = p := by simp [keptPort, namedPort, hname]
      have hp : p.Follows := h p (List.mem_singleton_self p)
      simp only [ContainerPort.Follows, settledPort, hkept] at hp ⊢
      constructor
      · rintro hport q hq - hset
        cases hq
        obtain ⟨n, hn⟩ := Option.ne_none_iff_exists'.1 hset
        exact (hp n hn).symm.trans (hport n hn)
      · intro hport n hn
        have hset : p.hostPort ≠ none := by simp [hn]
        exact (hp n hn).trans (hport p rfl hname hset)
    · have hkept : keptPort name (some [p]) = { name := some name } := by
        simp [keptPort, namedPort, hname]
      exact iff_of_true (hfresh hkept) fun q hq hqname => by cases hq; exact absurd hqname hname

end AgentOperator.Workload

namespace AgentOperator.Dataplane

open Kube (Container DaemonSet Object)
open Workload

variable {s : Surroundings} {spec : Agent.Spec}

/-- The metrics that a container of the node agent exports, by its name. -/
def metricsOf? (spec : Agent.Spec) (container : String) : Option Agent.Prometheus :=
  if container = sensorContainerName then
    some spec.components.runtimeProtection.sensor.prometheus
  else if container = scannerContainerName then
    some spec.components.clusterScanning.clusterScanner.prometheus
  else none

/-- Whether the port for metrics gets another number, and has one on the host. -/
def Renumbered (spec : Agent.Spec) (k : Container) : Prop :=
  ∃ metrics, metricsOf? spec k.name = some metrics ∧ metrics.enabled = true ∧
    ∃ p, k.ports = some [p] ∧ p.name = some metricsPortName ∧ p.hostPort ≠ none ∧
      p.containerPort ≠ metrics.port

theorem withAgent_ports (spec : Agent.Spec) (k : Container) :
    (withAgent spec k).ports = match metricsOf? spec k.name with
      | some metrics => settledMetricsPort metrics k.ports
      | none => k.ports := by
  have hsensor : (withSensor spec k).ports = settledMetricsPort
      spec.components.runtimeProtection.sensor.prometheus k.ports := by
    rw [withSensor_eq]
    rfl
  have hscanner : (withScanner spec k).ports = settledMetricsPort
      spec.components.clusterScanning.clusterScanner.prometheus k.ports := by
    rw [withScanner_eq]
    rfl
  unfold withAgent metricsOf?
  by_cases h : k.name = sensorContainerName
  · simp only [if_pos h, hsensor]
  · by_cases h' : k.name = scannerContainerName
    · simp only [if_neg h, if_pos h', hscanner]
    · simp only [if_neg h, if_neg h']

theorem withAgent_hostPortsFollow_iff {k : Container} (h : k.HostPortsFollow) :
    (withAgent spec k).HostPortsFollow ↔ ¬ Renumbered spec k := by
  rw [Container.HostPortsFollow, withAgent_ports, Renumbered]
  cases metricsOf? spec k.name with
  | none =>
    refine iff_of_true h ?_
    simp only [reduceCtorEq, false_and, exists_false, not_false_eq_true]
  | some metrics =>
    by_cases hon : metrics.enabled = true
    · have hport := settledPort_follows_iff metricsPortName metrics.port h
      simp only [settledMetricsPort, hon, if_true, Option.getD_some, List.mem_singleton,
        forall_eq, hport, Option.some.injEq, exists_eq_left', true_and, not_exists, not_and,
        ne_eq, not_not]
    · simp [settledMetricsPort, hon]

theorem pod_withNodeAgent_containers (spec : Agent.Spec) (d : DaemonSet) :
    (Object.daemonSet (withNodeAgent spec d)).pod.containers
      = (selectContainers (wantedContainers spec) (Object.daemonSet d).pod.containers).map
          (withAgent spec) := by
  have hpod : agentPodOf (withNodeAgent spec d) = withNodeAgentPod spec (agentPodOf d) := rfl
  rw [Object.pod_daemonSet, Object.pod_daemonSet, hpod, withNodeAgentPod_eq,
    ← agentContainers_eq_map]

/-- **Host ports of the node agent.** Where they follow the ports of the containers, they
still do afterwards just if no port that has one is renumbered. -/
theorem hostPortsFollow_iff (s : Surroundings) (spec : Agent.Spec) {d : DaemonSet}
    (h : (Object.daemonSet d).pod.HostPortsFollow) :
    ∃ o₁, Component.nodeAgent.mutate s spec (.daemonSet d) = .ok o₁ ∧
      o₁.pod.rest = (Object.daemonSet d).pod.rest ∧
      (o₁.pod.HostPortsFollow
        ↔ ∀ k ∈ selectContainers (wantedContainers spec) (Object.daemonSet d).pod.containers,
          ¬ Renumbered spec k) := by
  have hchange : Component.Change s spec .nodeAgent (.daemonSet d)
      (.daemonSet (withNodeAgent spec d)) := .nodeAgent d
  have hfurnishes := hchange.furnishes (.inr rfl)
  refine ⟨_, hchange.mutate, hfurnishes.rest, ?_⟩
  rw [Kube.PodSpec.HostPortsFollow, pod_withNodeAgent_containers, List.forall_mem_map]
  refine forall₂_congr fun k hk => withAgent_hostPortsFollow_iff ?_
  rcases mem_selectContainers hk with hstored | ⟨name, rfl⟩
  · exact h k hstored
  · exact fun p hp => by cases hp

/-- A daemon set whose sensor exports metrics at one port, of its own and of the host. -/
def exportingAt (port : Int32) : DaemonSet :=
  { spec := some
      { template :=
          { spec := some
              { containers :=
                  [{ name := sensorContainerName
                     ports := some
                      [{ name := some metricsPortName, containerPort := port
                         hostPort := some port }] }] } } } }

theorem hostPortsFollow_exportingAt (port : Int32) :
    (Object.daemonSet (exportingAt port)).pod.HostPortsFollow := by
  intro k hk p hp n hn
  cases List.mem_singleton.1 hk
  cases List.mem_singleton.1 hp
  cases hn
  rfl

/-- A spec with the sensor alone, whose metrics are exported at a port. -/
def sensorMetricsAt (port : Int32) : Agent.Spec :=
  { account := "acc"
    clusterName := "c"
    version := "1.0.0"
    components :=
      { runtimeProtection := { sensor := { prometheus := { enabled := true, port } } }
        clusterScanning := { enabled := false } } }

/-- A port that keeps its number is followed. -/
theorem hostPortsFollow_same_port :
    (sensorMetricsAt 7071).components.runtimeProtection.enabled = true ∧
      (Object.daemonSet (exportingAt 7071)).pod.HostPortsFollow ∧
      ∃ o₁, Component.nodeAgent.mutate {} (sensorMetricsAt 7071) (.daemonSet (exportingAt 7071))
          = .ok o₁ ∧ o₁.pod.HostPortsFollow := by
  have hstored := hostPortsFollow_exportingAt 7071
  obtain ⟨o₁, hmutate, -, hiff⟩ := hostPortsFollow_iff {} (sensorMetricsAt 7071) hstored
  refine ⟨rfl, hstored, o₁, hmutate, hiff.2 fun k hk hrenumbered => ?_⟩
  obtain ⟨metrics, hmetrics, -, p, hports, -, -, hne⟩ := hrenumbered
  cases List.mem_singleton.1 hk
  cases hmetrics
  cases hports
  exact hne rfl

/-- A port that gets another number keeps the one on the host. -/
theorem hostPorts_left_behind :
    (sensorMetricsAt 9090).components.runtimeProtection.enabled = true ∧
      (Object.daemonSet (exportingAt 7071)).pod.HostPortsFollow ∧
      ∃ o₁, Component.nodeAgent.mutate {} (sensorMetricsAt 9090) (.daemonSet (exportingAt 7071))
          = .ok o₁ ∧ ¬ o₁.pod.HostPortsFollow := by
  refine ⟨rfl, hostPortsFollow_exportingAt 7071, _, (Component.Change.nodeAgent _).mutate,
    fun h => ?_⟩
  have hcontradiction := h _ (List.mem_singleton_self _) _ (List.mem_singleton_self _) 7071 rfl
  exact absurd hcontradiction (by decide)

end AgentOperator.Dataplane

namespace AgentOperator.Kube

/-! ## Alternatives -/

/-- How many handlers a probe has. -/
def Probe.handlers (p : Probe) : Nat :=
  p.exec.isSome.toNat + p.grpc.isSome.toNat + p.httpGet.isSome.toNat + p.tcpSocket.isSome.toNat

/-- How many sources a volume has, those included that are only carried along. -/
def Volume.sources (v : Volume) : Nat :=
  v.configMap.isSome.toNat + v.hostPath.isSome.toNat + v.secret.isSome.toNat + v.rest.present.length

/-- Both probes of a container have at most one handler, if they are there. -/
def Container.HandlersApart (k : Container) : Prop :=
  (k.readinessProbe.getD {}).handlers ≤ 1 ∧ (k.livenessProbe.getD {}).handlers ≤ 1

/-- An object that has at most one of each set of alternatives. -/
structure Object.OneOf (o : Object) : Prop where
  probes : ∀ k ∈ o.pod.containers, k.HandlersApart
  volumes : ∀ v ∈ o.pod.volumes.getD [], v.sources ≤ 1
  entries : ∀ w ∈ o.entries, w.clientConfig.service = none ∨ w.clientConfig.url = none

/-- A container that is probed in one way for each of the two questions. -/
structure Container.Probed (k : Container) : Prop where
  readiness : ∃ p, k.readinessProbe = some p ∧ p.handlers = 1
  liveness : ∃ p, k.livenessProbe = some p ∧ p.handlers = 1

/-- An entry that is answered by a service and by nothing else. -/
def Webhook.Served (w : Webhook) : Prop :=
  w.clientConfig.service ≠ none ∧ w.clientConfig.url = none

end AgentOperator.Kube

namespace AgentOperator.Workload

open Kube (Probe)

/-! ## Handlers -/

theorem httpProbe_handlers (path : String) (probes : Agent.HttpProbes) {p : Probe}
    (h : p.handlers ≤ 1) : (httpProbe path probes p).handlers = 1 := by
  rcases hget : p.httpGet with _ | get
  · simp [Probe.handlers, httpProbe, withTiming, hget]
  · simp only [Probe.handlers, hget, Option.isSome_some, Bool.toNat_true] at h
    simp only [Probe.handlers, httpProbe, withTiming, hget, Option.isNone_some,
      Bool.false_eq_true, if_false, Option.isSome_some, Bool.toNat_true]
    omega

theorem fileProbe_handlers (path : String) (timing : Agent.ProbeTiming) {p : Probe}
    (h : p.handlers ≤ 1) : (fileProbe path timing p).handlers = 1 := by
  rcases hexec : p.exec with _ | action
  · simp [Probe.handlers, fileProbe, withTiming, hexec]
  · simp only [Probe.handlers, hexec, Option.isSome_some, Bool.toNat_true] at h
    simp only [Probe.handlers, fileProbe, withTiming, hexec, Option.isNone_some,
      Bool.false_eq_true, if_false, Option.isSome_some, Bool.toNat_true]
    omega

end AgentOperator.Workload

namespace AgentOperator.Dataplane

open Kube (Container Deployment Object PodSpec Volume Webhook)
open Workload

variable {c : Component} {s : Surroundings} {spec : Agent.Spec} {o o₁ : Object} {k : Container}

theorem ContainerPlan.apply_probed {p : ContainerPlan} (hp : p.Proper) (spec : Agent.Spec)
    (hprobes : p.probes ≠ none) (h : k.HandlersApart) : (p.apply spec k).Probed := by
  obtain ⟨change, hsecure, -⟩ := hp.secure_settles
  obtain ⟨probes, hsome⟩ := Option.ne_none_iff_exists'.1 hprobes
  rw [apply_eq spec hp.mounts_ne_nil hsecure]
  simp only [settled, hsome]
  exact ⟨⟨_, rfl, httpProbe_handlers _ _ h.1⟩, ⟨_, rfl, httpProbe_handlers _ _ h.2⟩⟩

theorem withSensor_probed (h : k.HandlersApart) : (withSensor spec k).Probed := by
  rw [withSensor_eq]
  exact ⟨⟨_, rfl, fileProbe_handlers _ _ h.1⟩, ⟨_, rfl, fileProbe_handlers _ _ h.2⟩⟩

theorem withScanner_probed (h : k.HandlersApart) : (withScanner spec k).Probed := by
  rw [withScanner_eq]
  exact ⟨⟨_, rfl, fileProbe_handlers _ _ h.1⟩, ⟨_, rfl, fileProbe_handlers _ _ h.2⟩⟩

theorem withAgent_probed (hname : k.name ∈ wantedContainers spec) (h : k.HandlersApart) :
    (withAgent spec k).Probed := by
  unfold withAgent
  by_cases hsensor : k.name = sensorContainerName
  · rw [if_pos hsensor]
    exact withSensor_probed h
  · rw [if_neg hsensor]
    by_cases hscanner : k.name = scannerContainerName
    · rw [if_pos hscanner]
      exact withScanner_probed h
    · simp [wantedContainers, hsensor, hscanner] at hname

/-- Whether the component writes the probes of its containers: one deployment has none. -/
def Component.WritesProbes (c : Component) (nodes : Option UInt64) (spec : Agent.Spec) : Prop :=
  ∀ p, c.deploymentPlan? nodes spec = some p → p.container.probes ≠ none

theorem handlersApart_fresh (name : String) : Container.HandlersApart { name } :=
  ⟨Nat.zero_le 1, Nat.zero_le 1⟩

/-- Every probe that is written has one handler. -/
theorem Component.Change.probed (ho : o.OneOf) (h : Component.Change s spec c o o₁)
    (hc : c.WritesProbes s.nodes spec) : ∀ k ∈ o₁.pod.containers, k.Probed := by
  cases h with
  | @deployment _ d p hp =>
    have hproper := Component.deploymentPlan?_proper hp
    have hpod : podOf (p.apply spec d) = p.applyPod spec (podOf d) := rfl
    rw [Object.pod_deployment, hpod, DeploymentPlan.applyPod_eq hproper.volumes_ne_nil]
    have hkept : (onlyContainer (podOf d).containers).HandlersApart := by
      have hstored := ho.probes
      rw [Object.pod_deployment] at hstored
      match (podOf d).containers, hstored with
      | [k], hstored => exact hstored k (List.mem_singleton_self k)
      | [], _ => exact handlersApart_fresh ""
      | _ :: _ :: _, _ => exact handlersApart_fresh ""
    intro k hk
    rw [List.mem_singleton.1 hk]
    exact ContainerPlan.apply_probed hproper.container spec (hc p hp) hkept
  | nodeAgent d =>
    intro k hk
    rw [pod_withNodeAgent_containers] at hk
    obtain ⟨k, hkept, rfl⟩ := List.mem_map.1 hk
    refine withAgent_probed ?_ ?_
    · exact (complete_selectContainers _ _).mem_wanted (wantedContainers_nodup spec) hkept
    · rcases mem_selectContainers hkept with hstored | ⟨name, rfl⟩
      · exact ho.probes k hstored
      · exact handlersApart_fresh name
  | _ => exact fun k hk => by cases hk

/-! ## Sources -/

/-- Whether a volume has a source of the planned kind. -/
def VolumePlan.Holds : VolumePlan → Volume → Prop
  | .secret _ _, v => v.secret ≠ none
  | .hostPath _ _, v => v.hostPath ≠ none
  | .rootCAs, v => v.configMap ≠ none

/-- A volume suits a plan if it has a source of the planned kind, or none. -/
def VolumePlan.Suits (p : VolumePlan) (v : Volume) : Prop := p.Holds v ∨ v.sources = 0

theorem VolumePlan.sources_pos {p : VolumePlan} {v : Volume} (h : p.Holds v) : 0 < v.sources := by
  have hsome {β : Type} {x : Option β} (hx : x ≠ none) : x.isSome.toNat = 1 := by
    rw [Option.isSome_iff_ne_none.2 hx, Bool.toNat_true]
  unfold Volume.sources
  cases p with
  | secret name source => rw [hsome h]; omega
  | hostPath name path => rw [hsome h]; omega
  | rootCAs => rw [hsome h]; omega

/-- Bringing a volume to its plan leaves every source that it has. -/
theorem VolumePlan.sources_change (p : VolumePlan) (v : Volume) [Decidable (p.Holds v)] :
    (p.entry.change v).sources = if p.Holds v then v.sources else v.sources + 1 := by
  cases p with
  | secret name source =>
    cases hsecret : v.secret <;> simp [Holds, hsecret, VolumePlan.entry, Volume.sources]
    omega
  | hostPath name path =>
    cases hpath : v.hostPath <;> simp [Holds, hpath, VolumePlan.entry, Volume.sources]
    omega
  | rootCAs =>
    cases hmap : v.configMap <;> simp [Holds, hmap, VolumePlan.entry, Volume.sources]
    omega

/-- So it comes to have one just if it had no other. -/
theorem VolumePlan.sources_change_eq_one_iff (p : VolumePlan) {v : Volume} (h : v.sources ≤ 1) :
    (p.entry.change v).sources = 1 ↔ p.Suits v := by
  classical
  rw [sources_change, Suits]
  split
  · rename_i hholds
    have hpos := sources_pos hholds
    exact iff_of_true (by omega) (.inl hholds)
  · rename_i hholds
    simp only [hholds, false_or]
    omega

theorem VolumePlan.suits_fresh (p : VolumePlan) (name : String) : p.Suits { name } :=
  .inr rfl

/-- The volume of a plan is made of the one of its name that was kept, or of nothing. -/
theorem find?_settledVolumes {plans : List VolumePlan} (hnodup : (plans.map (·.name)).Nodup)
    {plan : VolumePlan} (hplan : plan ∈ plans) (volumes : Option (List Volume)) :
    (settledVolumes plans volumes).find? (namedVolume plan.name)
      = some (plan.entry.change
          (((Keyed.kept plans.length (volumes.getD [])).find? (namedVolume plan.name)).getD
            { name := plan.name })) := by
  rw [← VolumePlan.map_entry_name] at hnodup
  have hwritten := Keyed.find?_writeAll hnodup (List.mem_map_of_mem hplan)
    (Keyed.kept plans.length (volumes.getD []))
  rw [VolumePlan.entry_name] at hwritten
  rw [settledVolumes, Keyed.settle, List.length_map]
  exact hwritten

theorem sources_le_of_mem_kept (count : Nat) {volumes : List Volume}
    (h : ∀ v ∈ volumes, v.sources ≤ 1) : ∀ v ∈ Keyed.kept count volumes, v.sources ≤ 1 := by
  unfold Keyed.kept
  split
  · exact h
  · exact fun v hv => absurd hv List.not_mem_nil

/-- Every planned volume comes to have one source just if those of its name that are kept
suit the plan. -/
theorem Component.Furnishes.sources_iff {nodes : Option UInt64} {pod pod₁ : PodSpec}
    (h : c.Furnishes nodes spec pod pod₁) (hsources : ∀ v ∈ pod.volumes.getD [], v.sources ≤ 1) :
    (∀ plan ∈ c.volumePlans nodes spec, ∃ v,
        (pod₁.volumes.getD []).find? (namedVolume plan.name) = some v ∧ v.sources = 1)
      ↔ ∀ plan ∈ c.volumePlans nodes spec, ∀ v,
        (Keyed.kept (c.volumePlans nodes spec).length (pod.volumes.getD [])).find?
            (namedVolume plan.name) = some v →
          plan.Suits v := by
  refine forall₂_congr fun plan hplan => ?_
  rw [h.volumes, find?_settledVolumes (c.volumePlans_nodup nodes spec) hplan]
  have hkept := sources_le_of_mem_kept (c.volumePlans nodes spec).length hsources
  generalize Keyed.kept (c.volumePlans nodes spec).length (pod.volumes.getD []) = kept at hkept
  simp only [Option.some.injEq, exists_eq_left']
  cases hfind : kept.find? (namedVolume plan.name) with
  | none =>
    have hfresh : Volume.sources { name := plan.name } ≤ 1 := Nat.zero_le 1
    have hone := (plan.sources_change_eq_one_iff hfresh).2 (plan.suits_fresh plan.name)
    exact iff_of_true hone fun v hv => by cases hv
  | some v =>
    have hone := plan.sources_change_eq_one_iff (hkept v (List.mem_of_find?_eq_some hfind))
    simpa only [Option.getD_some, Option.some.injEq, forall_eq'] using hone

/-! ## Addresses -/

/-- The entries that a component has in a webhook configuration. -/
def Component.entryNames : Component → List String
  | .validatingWebhook => [validatingResourcesName, validatingNamespacesName]
  | .mutatingWebhook => [mutatingResourcesName]
  | _ => []

/-- An entry that is given a service keeps its address. -/
theorem served_iff_of_clientConfig {space path : String} {ca : Bytes} {v w : Webhook}
    (h : v.clientConfig = (withEnforcerService space path (withCaBundle ca w)).clientConfig) :
    v.Served ↔ w.clientConfig.url = none := by
  rw [Webhook.Served, h]
  exact and_iff_right (Option.some_ne_none _)

theorem url_of_mem_keptEntries_nil {names : List String} :
    ∀ w ∈ keptEntries names [], w.clientConfig.url = none := by
  intro w hw
  unfold keptEntries at hw
  split at hw
  · cases hw
  · obtain ⟨name, -, rfl⟩ := List.mem_map.1 hw
    rfl

/-- Every entry comes to have just a service if those that are kept had no address. -/
theorem Component.Change.served_iff (h : Component.Change s spec c o o₁) :
    (∀ w ∈ o₁.entries, w.Served)
      ↔ ∀ w ∈ keptEntries c.entryNames o.entries, w.clientConfig.url = none := by
  cases h with
  | validatingWebhook d htls =>
    simp only [Object.entries, withValidatingEntries, withEntries_eq, withConfigurationLabels,
      List.forall_mem_map]
    exact forall₂_congr fun w _ =>
      served_iff_of_clientConfig (validatingEntry_clientConfig s.kubelet _ spec w)
  | mutatingWebhook d htls =>
    simp only [Object.entries, withMutatingEntries, withEntries_eq, withConfigurationLabels,
      List.forall_mem_map]
    exact forall₂_congr fun w _ =>
      served_iff_of_clientConfig (mutatingEntry_clientConfig s.kubelet _ spec w)
  | _ => exact iff_of_true (fun w hw => by cases hw) url_of_mem_keptEntries_nil

/-- **Of alternatives there is one.** For an object with at most one of each, every probe
that is written has one handler, every planned volume has one source just if those that are
kept suit the plan, and every webhook entry has just a service if those that are kept had
no address. -/
theorem Component.alternatives_iff (ho : o.OneOf) (h : c.mutate s spec o = .ok o₁) :
    (c.WritesProbes s.nodes spec → ∀ k ∈ o₁.pod.containers, k.Probed) ∧
    (c.IsWorkload →
      ((∀ plan ∈ c.volumePlans s.nodes spec, ∃ v,
          (o₁.pod.volumes.getD []).find? (namedVolume plan.name) = some v ∧ v.sources = 1)
        ↔ ∀ plan ∈ c.volumePlans s.nodes spec, ∀ v,
          (Keyed.kept (c.volumePlans s.nodes spec).length (o.pod.volumes.getD [])).find?
              (namedVolume plan.name) = some v →
            plan.Suits v)) ∧
    ((∀ w ∈ o₁.entries, w.Served)
      ↔ ∀ w ∈ keptEntries c.entryNames o.entries, w.clientConfig.url = none) := by
  have hchange := c.change_of_mutate h
  exact ⟨hchange.probed ho, fun hc => (hchange.furnishes hc).sources_iff ho.volumes,
    hchange.served_iff⟩

/-- A monitor that is probed by a command, with a volume of the node. -/
def commandProbed : Deployment :=
  { spec := some
      { template :=
          { spec := some
              { volumes := some [{ name := "a", hostPath := some {} }]
                containers := [{ readinessProbe := some { exec := some {} } }] } } } }

theorem oneOf_commandProbed : (Object.deployment commandProbed).OneOf where
  probes k hk := by
    cases List.mem_singleton.1 hk
    exact ⟨by decide, by decide⟩
  volumes v hv := by
    cases List.mem_singleton.1 hv
    decide
  entries w hw := by cases hw

theorem alternatives_commandProbed :
    (Object.deployment commandProbed).OneOf ∧
      ∃ o₁, Component.monitor.mutate {} default (.deployment commandProbed) = .ok o₁ ∧
        (∀ k ∈ o₁.pod.containers, k.Probed) ∧
        ∃ v, (o₁.pod.volumes.getD []).find? (namedVolume rootCAsVolume) = some v ∧
          v.sources = 1 := by
  have h : Component.Change {} default .monitor (.deployment commandProbed)
      (.deployment ((monitorPlan default).apply default commandProbed)) := .deployment _ rfl
  obtain ⟨hprobes, hvolumes, -⟩ := Component.alternatives_iff oneOf_commandProbed h.mutate
  refine ⟨oneOf_commandProbed, _, h.mutate, hprobes ?_, ?_⟩
  · intro p hp
    cases hp
    exact Option.some_ne_none _
  · refine (hvolumes (.inl rfl)).2 ?_ .rootCAs (List.mem_singleton_self _)
    intro plan hplan v hv
    cases List.mem_singleton.1 hplan
    cases hv

/-- A configuration whose entries are answered at an address. -/
def addressedEntries : Kube.WebhookConfiguration :=
  { webhooks := [validatingResourcesName, validatingNamespacesName].map fun name =>
      { name, clientConfig := { url := some "https://enforcer.example.com" } } }

theorem oneOf_addressedEntries :
    (Object.validatingWebhookConfiguration addressedEntries).OneOf where
  probes k hk := by cases hk
  volumes v hv := by cases hv
  entries w hw := by
    obtain ⟨name, -, rfl⟩ := List.mem_map.1 hw
    exact .inl rfl

/-- Its entries are given a service besides. -/
theorem webhooks_keep_address :
    (Object.validatingWebhookConfiguration addressedEntries).OneOf ∧
      ∃ o₁, Component.validatingWebhook.mutate { tls := some default } default
          (.validatingWebhookConfiguration addressedEntries) = .ok o₁ ∧
        ¬ ∀ w ∈ o₁.entries, w.Served := by
  have h : Component.Change { tls := some default } default .validatingWebhook
      (.validatingWebhookConfiguration addressedEntries) _ := .validatingWebhook _ rfl
  refine ⟨oneOf_addressedEntries, _, h.mutate, fun hserved => ?_⟩
  have hurl := h.served_iff.1 hserved _ (List.mem_cons_self ..)
  exact absurd hurl (Option.some_ne_none _)

end AgentOperator.Dataplane
