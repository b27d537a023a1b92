import AgentOperator.Proofs.Gist
import AgentOperator.Proofs.Leftovers
import Mathlib.Data.List.Perm.Basic

/-!
AgentOperator.Proofs.Selection — which stored containers the node agent goes on with.

Taking a container out of a list moves the last one into its place, so that what is left is
in another order, but it is still the list without that container (`takeContainer?_perm`).
The wanted names being different, a container that is taken for one name is never missed
for another (`kept_or_absent_of_mem_carryOver`). So every enabled component gets a stored container
of its name if there is one, and it keeps all members of it but those that it writes
(`SparesContainer`).
-/

namespace AgentOperator.Dataplane

open Kube (Container ContainerPort DaemonSet Object Probe ResourceRequirements SecurityContext
  VolumeMount)
open Workload

/-! ## Taking containers out -/

variable {spec : Agent.Spec}

section Taking

variable {name : String} {wanted : List String} {stored rest : List Container} {c : Container}

/-- What is left after a container is taken is the list without it. -/
theorem takeContainer?_perm (h : takeContainer? name stored = some (c, rest)) :
    stored.Perm (c :: rest) := by
  simp only [takeContainer?, Option.bind_eq_bind, Option.bind_eq_some_iff, Option.pure_def,
    Option.some.injEq, Prod.mk.injEq] at h
  obtain ⟨i, -, c', hc, last, hlast, rfl, rfl⟩ := h
  obtain ⟨front, rfl⟩ := List.getLast?_eq_some_iff.1 hlast
  obtain ⟨hlt, rfl⟩ := List.getElem?_eq_some_iff.1 hc
  rw [List.length_append, List.length_singleton] at hlt
  by_cases hi : i < front.length
  · rw [List.set_append_left _ _ hi, List.dropLast_concat, List.getElem_append_left hi]
    calc List.Perm (front ++ [last]) (last :: front) := List.perm_append_singleton last front
      List.Perm _ (last :: front[i] :: front.eraseIdx i) :=
        (List.getElem_cons_eraseIdx_perm hi).symm.cons last
      List.Perm _ (front[i] :: last :: front.eraseIdx i) := List.Perm.swap _ _ _
      List.Perm _ (front[i] :: front.set i last) :=
        (List.set_perm_cons_eraseIdx hi last).symm.cons front[i]
  · -- The last one is taken itself.
    have heq : i = front.length := by omega
    subst heq
    simp only [List.set_append_right, List.getElem_append_right, le_refl, Nat.sub_self,
      List.set_cons_zero, List.dropLast_concat, List.getElem_singleton]
    exact List.perm_append_singleton last front

/-- A container is taken just if there is one of the name. -/
theorem takeContainer?_eq_none (h : takeContainer? name stored = none) :
    name ∉ containerNaming.names stored := by
  intro hmem
  obtain ⟨c, hc, hname⟩ := Keyed.Naming.mem_names_iff.1 hmem
  cases hfind : stored.findIdx? (namedContainer name) with
  | none =>
    have hno := List.findIdx?_eq_none_iff.1 hfind c hc
    simp only [namedContainer, decide_eq_false_iff_not] at hno
    exact hno hname
  | some i =>
    obtain ⟨hlt, -⟩ := List.findIdx?_eq_some_iff_getElem.1 hfind
    have hlast := List.getLast?_eq_some_getLast (List.ne_nil_of_mem hc)
    simp [takeContainer?, hfind, hlt, hlast] at h

/-- A carried container is a stored one, or a fresh one if none of its name is stored. -/
theorem kept_or_absent_of_mem_carryOver (hnodup : wanted.Nodup)
    (hc : c ∈ carryOver wanted stored) :
    c ∈ stored ∨ c = { name := c.name } ∧ c.name ∉ containerNaming.names stored := by
  induction wanted generalizing stored with
  | nil => cases hc
  | cons name wanted ih =>
    obtain ⟨hnew, hnodup⟩ := List.nodup_cons.1 hnodup
    rw [carryOver] at hc
    cases htake : takeContainer? name stored with
    | none =>
      rw [htake] at hc
      rcases List.mem_cons.1 hc with rfl | hc
      · exact .inr ⟨rfl, takeContainer?_eq_none htake⟩
      · exact ih hnodup hc
    | some taken =>
      obtain ⟨d, rest⟩ := taken
      rw [htake] at hc
      have hperm := takeContainer?_perm htake
      rcases List.mem_cons.1 hc with rfl | hc
      · exact .inl (hperm.symm.subset (List.mem_cons_self ..))
      · rcases ih hnodup hc with hrest | ⟨hfresh, hrest⟩
        · exact .inl (hperm.symm.subset (List.mem_cons_of_mem _ hrest))
        · have hwanted : c.name ∈ wanted := by
            rw [← names_carryOver wanted rest]
            exact Keyed.Naming.mem_names_iff.2 ⟨c, hc, rfl⟩
          -- The one that was taken has another name, and so did not hide one of this name.
          have hne : c.name ≠ d.name := by
            intro heq
            rw [heq, (takeContainer?_some htake).1] at hwanted
            exact hnew hwanted
          have habsent : c.name ∉ containerNaming.names stored := by
            intro hmem
            rcases List.mem_cons.1 ((hperm.map containerNaming.key).subset hmem) with heq | hmem
            · exact hne heq
            · exact hrest hmem
          exact .inr ⟨hfresh, habsent⟩

theorem kept_or_absent_of_mem_selectContainers (hnodup : wanted.Nodup)
    (hc : c ∈ selectContainers wanted stored) :
    c ∈ stored ∨ c = { name := c.name } ∧ c.name ∉ containerNaming.names stored := by
  unfold selectContainers at hc
  split at hc
  · exact .inl hc
  · exact kept_or_absent_of_mem_carryOver hnodup hc

theorem selectContainers_of_not_complete (h : ¬ Complete wanted stored) :
    selectContainers wanted stored = carryOver wanted stored := by
  rw [selectContainers, if_neg (mt (complete_iff wanted stored).1 h)]

end Taking

/-- Of containers of one name it need not be the first that is kept: the last one moves forward
when another is taken before it. -/
example :
    (selectContainers [sensorContainerName, scannerContainerName]
        [{ name := sensorContainerName }, { name := scannerContainerName, image := some "a" },
          { name := scannerContainerName, image := some "b" }]).map (·.image)
      = [none, some "b"] := by
  decide

/-! ## What is not written -/

/-- What a probe keeps: what is only carried, and the handlers beside a command that was
there. -/
structure SparesProbe (p p₁ : Probe) : Prop where
  rest : p₁.rest = p.rest
  handlers : p.exec ≠ none →
    p₁.grpc = p.grpc ∧ p₁.httpGet = p.httpGet ∧ p₁.tcpSocket = p.tcpSocket

/-- What security settings keep: all but the user and the privilege. -/
structure SparesSecurity (s s₁ : SecurityContext) : Prop where
  allowPrivilegeEscalation : s₁.allowPrivilegeEscalation = s.allowPrivilegeEscalation
  capabilities : s₁.capabilities = s.capabilities
  readOnlyRootFilesystem : s₁.readOnlyRootFilesystem = s.readOnlyRootFilesystem
  runAsNonRoot : s₁.runAsNonRoot = s.runAsNonRoot
  rest : s₁.rest = s.rest

/-- What resources keep: all but the amounts, and these too if they are the desired ones by
value. -/
structure SparesResources (desired r r₁ : ResourceRequirements) : Prop where
  rest : r₁.rest = r.rest
  amounts : Kube.Quantity.sameLists r.limits desired.limits = true →
    Kube.Quantity.sameLists r.requests desired.requests = true → r₁ = r

/-- What the only port of a container keeps if it is the one for metrics. -/
def SparesPort (ports ports₁ : Option (List ContainerPort)) : Prop :=
  ∀ p, ports = some [p] → p.name = some metricsPortName →
    ∀ p₁ ∈ ports₁.getD [], p₁.hostIP = p.hostIP ∧ p₁.hostPort = p.hostPort

/-- What mounts keep that are not dropped for their number. -/
def SparesMounts (plans : List MountPlan) (mounts mounts₁ : List VolumeMount) : Prop :=
  ∀ volume m, (Keyed.kept plans.length mounts).find? (mountNaming.test volume) = some m →
    ∃ m₁, mounts₁.find? (mountNaming.test volume) = some m₁ ∧ m₁.rest = m.rest

/-- The resources that the spec asks for in a container of the node agent, by its name. -/
def resourcesOf (spec : Agent.Spec) (container : String) : ResourceRequirements :=
  if container = sensorContainerName then spec.components.runtimeProtection.sensor.resources
  else spec.components.clusterScanning.clusterScanner.resources

/-- What a container of the node agent keeps: all that the component of its name does not
write. Only the sensor writes its command, and only the scanner its mounts. -/
structure SparesContainer (spec : Agent.Spec) (k k₁ : Container) : Prop where
  name : k₁.name = k.name
  rest : k₁.rest = k.rest
  command : k.name ≠ sensorContainerName → k₁.command = k.command
  volumeMounts : k.name ≠ scannerContainerName → k₁.volumeMounts = k.volumeMounts
  mounts : k.name = scannerContainerName →
    SparesMounts (scannerMounts spec.components.clusterScanning.clusterScanner)
      (k.volumeMounts.getD []) (k₁.volumeMounts.getD [])
  resources : SparesResources (resourcesOf spec k.name) (k.resources.getD {})
    (k₁.resources.getD {})
  readiness : SparesProbe (k.readinessProbe.getD {}) (k₁.readinessProbe.getD {})
  liveness : SparesProbe (k.livenessProbe.getD {}) (k₁.livenessProbe.getD {})
  security : SparesSecurity (k.securityContext.getD {}) (k₁.securityContext.getD {})
  ports : SparesPort k.ports k₁.ports

theorem fileProbe_spares (path : String) (timing : Agent.ProbeTiming) (p : Probe) :
    SparesProbe p (fileProbe path timing p) where
  rest := by cases h : p.exec <;> simp [fileProbe, withTiming, h]
  handlers hexec := by
    obtain ⟨action, h⟩ := Option.ne_none_iff_exists'.1 hexec
    simp [fileProbe, withTiming, h]

theorem settledResources_spares (desired : ResourceRequirements)
    (r : Option ResourceRequirements) :
    SparesResources desired (r.getD {}) ((settledResources desired r).getD {}) where
  rest := settledResources_rest desired r
  amounts hlimits hrequests := by
    have hsame : hasResources desired { resources := r } = true := by
      simp [hasResources, hlimits, hrequests]
    rw [settledResources, if_pos hsame]

theorem settledMetricsPort_spares (metrics : Agent.Prometheus)
    (ports : Option (List ContainerPort)) :
    SparesPort ports (settledMetricsPort metrics ports) := by
  intro p hports hname p₁ hp₁
  unfold settledMetricsPort at hp₁
  split at hp₁
  · have hkept : keptPort metricsPortName ports = p := by
      simp [hports, keptPort, namedPort, hname]
    rw [List.mem_singleton.1 hp₁, settledPort, hkept]
    exact ⟨rfl, rfl⟩
  · cases hp₁

theorem settledMounts_spares {plans : List MountPlan} (h : (plans.map (·.volume)).Nodup)
    (mounts : Option (List VolumeMount)) :
    SparesMounts plans (mounts.getD []) (settledMounts plans mounts) := by
  intro volume m hm
  rw [← MountPlan.map_entry_name] at h
  rw [settledMounts, Keyed.settle, List.length_map]
  by_cases hvolume : volume ∈ (plans.map MountPlan.entry).map (·.name)
  · obtain ⟨e, he, rfl⟩ := List.mem_map.1 hvolume
    have hwritten := Keyed.find?_writeAll h he (Keyed.kept plans.length (mounts.getD []))
    rw [hm] at hwritten
    refine ⟨_, hwritten, ?_⟩
    obtain ⟨plan, -, rfl⟩ := List.mem_map.1 he
    rfl
  · have hother := Keyed.find?_writeAll_of_not_mem hvolume
      (Keyed.kept plans.length (mounts.getD []))
    exact ⟨m, hother.trans hm, rfl⟩

theorem withSensor_spares (spec : Agent.Spec) {k : Container}
    (h : k.name = sensorContainerName) : SparesContainer spec k (withSensor spec k) := by
  have hother : sensorContainerName ≠ scannerContainerName := by decide
  rw [withSensor_eq]
  exact
    { name := rfl
      rest := rfl
      command := fun hne => absurd h hne
      volumeMounts := fun _ => rfl
      mounts := fun hscanner => absurd (h.symm.trans hscanner) hother
      resources := by
        rw [resourcesOf, if_pos h]
        exact settledResources_spares _ _
      readiness := fileProbe_spares _ _ _
      liveness := fileProbe_spares _ _ _
      security := ⟨rfl, rfl, rfl, rfl, rfl⟩
      ports := settledMetricsPort_spares _ _ }

theorem withScanner_spares (spec : Agent.Spec) {k : Container}
    (h : k.name = scannerContainerName) : SparesContainer spec k (withScanner spec k) := by
  have hother : scannerContainerName ≠ sensorContainerName := by decide
  rw [withScanner_eq]
  exact
    { name := rfl
      rest := rfl
      command := fun _ => rfl
      volumeMounts := fun hne => absurd h hne
      mounts := fun _ => settledMounts_spares (scannerMounts_nodup _) k.volumeMounts
      resources := by
        rw [resourcesOf, h, if_neg hother]
        exact settledResources_spares _ _
      readiness := fileProbe_spares _ _ _
      liveness := fileProbe_spares _ _ _
      security := ⟨rfl, rfl, rfl, rfl, rfl⟩
      ports := settledMetricsPort_spares _ _ }

/-- Of an enabled component. -/
theorem withAgent_spares {k : Container} (h : k.name ∈ wantedContainers spec) :
    SparesContainer spec k (withAgent spec k) := by
  unfold withAgent
  by_cases hsensor : k.name = sensorContainerName
  · rw [if_pos hsensor]
    exact withSensor_spares spec hsensor
  · rw [if_neg hsensor]
    by_cases hscanner : k.name = scannerContainerName
    · rw [if_pos hscanner]
      exact withScanner_spares spec hscanner
    · simp [wantedContainers, hsensor, hscanner] at h

/-! ## The containers of the pod -/

/-- Whether a container is that of an enabled component. -/
def IsEnabled (spec : Agent.Spec) (container : String) : Prop :=
  container = sensorContainerName ∧ spec.components.runtimeProtection.enabled = true ∨
    container = scannerContainerName ∧ spec.components.clusterScanning.enabled = true

/-- One container for each enabled component, and no other. -/
def HoldsJustEnabled (spec : Agent.Spec) (containers : List Container) : Prop :=
  (containerNaming.names containers).Nodup ∧
    ∀ name, name ∈ containerNaming.names containers ↔ IsEnabled spec name

theorem mem_wantedContainers_iff (spec : Agent.Spec) (name : String) :
    name ∈ wantedContainers spec ↔ IsEnabled spec name := by
  simp only [wantedContainers, IsEnabled, List.mem_append, List.mem_ite_nil_right,
    List.mem_singleton, and_comm]

theorem wantedContainers_sublist (spec : Agent.Spec) :
    (wantedContainers spec).Sublist [sensorContainerName, scannerContainerName] := by
  unfold wantedContainers
  cases spec.components.runtimeProtection.enabled <;>
    cases spec.components.clusterScanning.enabled <;> decide

theorem complete_iff_holdsJustEnabled (spec : Agent.Spec) (stored : List Container) :
    Complete (wantedContainers spec) stored ↔ HoldsJustEnabled spec stored := by
  have hnodup := wantedContainers_nodup spec
  constructor
  · intro h
    have hperm := (h.perm hnodup).symm
    exact ⟨h.names_nodup hnodup, fun name =>
      hperm.mem_iff.trans (mem_wantedContainers_iff spec name)⟩
  · intro h
    have hperm : (containerNaming.names stored).Perm (wantedContainers spec) :=
      (List.perm_ext_iff_of_nodup h.1 hnodup).2 fun name =>
        (h.2 name).trans (mem_wantedContainers_iff spec name).symm
    rw [← Keyed.length_and_subset_iff_perm hnodup, Keyed.length_names] at hperm
    exact hperm

/-- **The node agent holds just its containers.** Whatever containers are stored, there is one
for each enabled component afterwards. It is made of a stored one of that name if there is
one, of which it keeps all that the component does not write, and of an empty one otherwise.
Containers that were just the wanted ones stay in their order, and all others give way to the
sensor and then the scanner. -/
theorem node_agent_holds_its_containers (s : Surroundings) (spec : Agent.Spec) (d : DaemonSet) :
    ∃ d₁, Component.nodeAgent.mutate s spec (.daemonSet d) = .ok (.daemonSet d₁) ∧
      HoldsJustEnabled spec (agentPodOf d₁).containers ∧
      (∀ k₁ ∈ (agentPodOf d₁).containers,
        (∃ k ∈ (agentPodOf d).containers, k.name = k₁.name ∧ k₁ = withAgent spec k ∧
            SparesContainer spec k k₁) ∨
          k₁.name ∉ containerNaming.names (agentPodOf d).containers ∧
            k₁ = withAgent spec { name := k₁.name }) ∧
      (HoldsJustEnabled spec (agentPodOf d).containers →
        containerNaming.names (agentPodOf d₁).containers
          = containerNaming.names (agentPodOf d).containers) ∧
      (¬ HoldsJustEnabled spec (agentPodOf d).containers →
        (containerNaming.names (agentPodOf d₁).containers).Sublist
          [sensorContainerName, scannerContainerName]) := by
  have hnodup := wantedContainers_nodup spec
  have hleft : (agentPodOf (withNodeAgent spec d)).containers
      = agentContainers spec (agentPodOf d).containers := by
    have hpod : agentPodOf (withNodeAgent spec d) = withNodeAgentPod spec (agentPodOf d) := rfl
    rw [hpod, withNodeAgentPod_eq]
  have hchange : Component.Change s spec .nodeAgent (.daemonSet d)
      (.daemonSet (withNodeAgent spec d)) := .nodeAgent d
  refine ⟨withNodeAgent spec d, hchange.mutate, ?_⟩
  rw [hleft]
  generalize (agentPodOf d).containers = stored
  have hnames := names_agentContainers spec stored
  refine ⟨?_, ?_, ?_, ?_⟩
  · exact (complete_iff_holdsJustEnabled spec _).1 (complete_agentContainers spec stored)
  · intro k₁ hk₁
    rw [agentContainers_eq_map] at hk₁
    obtain ⟨k, hk, rfl⟩ := List.mem_map.1 hk₁
    have hwanted : k.name ∈ wantedContainers spec :=
      (complete_selectContainers (wantedContainers spec) stored).mem_wanted hnodup hk
    rw [withAgent_name]
    rcases kept_or_absent_of_mem_selectContainers hnodup hk with hstored | ⟨hfresh, habsent⟩
    · exact .inl ⟨k, hstored, rfl, rfl, withAgent_spares hwanted⟩
    · exact .inr ⟨habsent, congrArg (withAgent spec) hfresh⟩
  · intro h
    have hcomplete := (complete_iff_holdsJustEnabled spec stored).2 h
    rw [hnames, selectContainers_of_complete hcomplete]
  · intro h
    have hincomplete := mt (complete_iff_holdsJustEnabled spec stored).1 h
    rw [hnames, selectContainers_of_not_complete hincomplete, names_carryOver]
    exact wantedContainers_sublist spec

end AgentOperator.Dataplane
