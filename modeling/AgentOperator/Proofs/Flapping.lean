import AgentOperator.Proofs.Rereading
import AgentOperator.Proofs.Tidy

/-!
AgentOperator.Proofs.Flapping — objects that are updated over and over.

An object made of nothing is written, read back from a server that keeps nothing empty
and brought to the same spec again. What was lost on the way is written again, and
nothing else (`Component.Change.of_pruned`), so every later pass meets what the first
one met. It has nothing to update exactly when there was nothing to lose: when no
variable is blank and the registry secret has data (`Component.mutate_readBack_iff`).
-/

namespace AgentOperator.Workload

open Kube (Container EnvVar)

/-! ## Environments -/

theorem Plain.pruned {v : EnvVar} (h : Plain v) : Plain v.pruned := by
  intro r hr
  have hvalue : v.value = none := by rw [h r hr]
  have hv : v.pruned = v := EnvVar.pruned_eq_iff.2 (by rw [hvalue]; exact nofun)
  rw [hv] at hr ⊢
  exact h r hr

/-- Variables that were read back either have lost nothing, or are written again. -/
theorem settledEnv_pruned {e : Env} (he : e.Proper) :
    settledEnv e (prunedList EnvVar.pruned (settledEnv e none)) = settledEnv e none := by
  rw [settledEnv_none, prunedList_unlessEmpty, settledEnv, Keyed.getD_unlessEmpty]
  split
  · rename_i h
    simp only [Env.matchesVars, Bool.and_eq_true, List.all_eq_true, List.forall_mem_map] at h
    have hsame : ∀ v ∈ e.build, v.pruned = v := by
      intro v hv
      obtain ⟨k, hk⟩ := Env.mem_build.1 hv
      have hfound := h.2 v hv
      rw [show v.pruned.name = k from he.named k v hk, hk] at hfound
      exact eq_of_sameVar (he.plain k v hk).pruned (he.plain k v hk) rfl hfound
    rw [List.map_congr_left hsame, List.map_id']
  · rfl

/-- Where its variables were read back, a container has those it had before. -/
theorem settledEnv_reread {e : Env} (he : e.Proper) {d : Container}
    (h : d.env = settledEnv e none) : settledEnv e d.reread.env = settledEnv e d.env := by
  rw [Container.reread, h, settledEnv_pruned he, settledEnv_settled]

end AgentOperator.Workload

namespace AgentOperator.Dataplane

open Kube (ConfigMap Container DaemonSet Deployment Object ObjectMeta PodSpec PriorityClass Secret)
open Workload

variable {c : Component} {s : Surroundings} {spec : Agent.Spec} {nodes : Option UInt64}
  {p : DeploymentPlan} {o f : Object}

/-! ## Workloads -/

theorem ContainerPlan.apply_reread {p : ContainerPlan} (hp : p.Proper) {d : Container}
    (h : d.env = settledEnv (.ofSources p.env) none) (spec : Agent.Spec) :
    p.apply spec d.reread = p.apply spec d := by
  obtain ⟨change, hsecure, -⟩ := hp.secure_settles
  have henv := settledEnv_reread (Env.proper_ofSources p.env) h
  rw [apply_eq spec hp.mounts_ne_nil hsecure, apply_eq spec hp.mounts_ne_nil hsecure, settled,
    settled, henv]
  rfl

theorem DeploymentPlan.applyPod_reread (hp : p.Proper) (spec : Agent.Spec) :
    p.applyPod spec (p.applyPod spec {}).reread = p.applyPod spec (p.applyPod spec {}) := by
  obtain ⟨d, hmade⟩ := exists_made hp spec
  have hcontainer : p.settledContainer spec ((p.applyPod spec {}).containers.map Container.reread)
      = p.settledContainer spec (p.applyPod spec {}).containers := by
    rw [hmade.containers]
    exact ContainerPlan.apply_reread (d := { d with name := p.name }) hp.container hmade.env spec
  rw [applyPod_eq hp.volumes_ne_nil spec (PodSpec.reread _),
    applyPod_eq hp.volumes_ne_nil spec (p.applyPod spec {}), PodSpec.reread, hcontainer]

/-- A deployment whose pod comes out the same when it is read back. -/
theorem DeploymentPlan.apply_reread_of_pod (p : DeploymentPlan) (spec : Agent.Spec)
    {d : Deployment} (h : p.applyPod spec (podOf d).reread = p.applyPod spec (podOf d)) :
    p.apply spec d.reread = p.apply spec d := by
  obtain ⟨m, _ | ⟨replicas, selector, ⟨tm, _ | pod⟩, rest⟩, status⟩ := d
  · rfl
  · rfl
  · rw [apply_eq p spec ⟨m, some ⟨replicas, selector, ⟨tm, some pod⟩, rest⟩, status⟩, ← h]
    rfl

theorem DeploymentPlan.apply_reread (hp : p.Proper) (spec : Agent.Spec) :
    p.apply spec (p.apply spec {}).reread = p.apply spec {} := by
  have hstray : ¬ p.Stray {} := fun hstray =>
    hstray.elim (Keyed.not_stray_nil _) (Keyed.not_stray_nil _)
  have hpod : podOf (p.apply spec {}) = p.applyPod spec {} := rfl
  rw [p.apply_reread_of_pod spec (by rw [hpod, applyPod_reread hp])]
  exact (apply_apply_iff hp spec {}).2 hstray

theorem withSensor_reread {d : Container}
    (h : d.env = settledEnv (.ofSources (sensorEnv spec)) none) :
    withSensor spec d.reread = withSensor spec d := by
  have henv := settledEnv_reread (Env.proper_ofSources _) h
  rw [withSensor_eq, withSensor_eq, sensorSettled, sensorSettled, henv]
  rfl

theorem withScanner_reread {d : Container}
    (h : d.env = settledEnv (.ofSources (scannerEnv spec)) none) :
    withScanner spec d.reread = withScanner spec d := by
  have henv := settledEnv_reread (Env.proper_ofSources _) h
  rw [withScanner_eq, withScanner_eq, scannerSettled, scannerSettled, henv]
  rfl

theorem map_containersIf (change : Container → Container) (runtime scanning : Bool)
    (sensor scanner : Container) : (containersIf runtime scanning sensor scanner).map change
      = containersIf runtime scanning (change sensor) (change scanner) := by
  cases runtime <;> cases scanning <;> rfl

theorem agentContainers_reread (spec : Agent.Spec) :
    agentContainers spec ((agentContainers spec []).map Container.reread)
      = agentContainers spec (agentContainers spec []) := by
  have hsensor := withSensor_name spec { name := sensorContainerName }
  have hscanner := withScanner_name spec { name := scannerContainerName }
  have hsensor' := withSensor_reread (withSensor_env spec { name := sensorContainerName })
  have hscanner' := withScanner_reread (withScanner_env spec { name := scannerContainerName })
  rw [agentContainers_nil, map_containersIf]
  generalize withSensor spec { name := sensorContainerName } = sensor at hsensor hsensor' ⊢
  generalize withScanner spec { name := scannerContainerName } = scanner at hscanner hscanner' ⊢
  have hreread : sensor.reread.name = sensorContainerName ∧
      scanner.reread.name = scannerContainerName := ⟨hsensor, hscanner⟩
  rw [agentContainers_containersIf spec hreread.1 hreread.2,
    agentContainers_containersIf spec hsensor hscanner]
  cases spec.components.runtimeProtection.enabled <;>
    cases spec.components.clusterScanning.enabled <;>
    simp only [if_true, if_false, Bool.false_eq_true, hsensor', hscanner']

theorem withNodeAgentPod_reread (spec : Agent.Spec) :
    withNodeAgentPod spec (withNodeAgentPod spec {}).reread
      = withNodeAgentPod spec (withNodeAgentPod spec {}) := by
  have hcontainers :
      agentContainers spec ((withNodeAgentPod spec {}).containers.map Container.reread)
        = agentContainers spec (withNodeAgentPod spec {}).containers := by
    rw [withNodeAgentPod_eq]
    exact agentContainers_reread spec
  rw [withNodeAgentPod_eq spec (PodSpec.reread _),
    withNodeAgentPod_eq spec (withNodeAgentPod spec {}), PodSpec.reread, hcontainers]

/-- A daemon set whose pod comes out the same when it is read back. -/
theorem withNodeAgent_reread_of_pod (spec : Agent.Spec) {d : DaemonSet}
    (h : withNodeAgentPod spec (agentPodOf d).reread = withNodeAgentPod spec (agentPodOf d)) :
    withNodeAgent spec d.reread = withNodeAgent spec d := by
  obtain ⟨m, _ | ⟨selector, ⟨tm, _ | pod⟩, rest⟩, status⟩ := d
  · rfl
  · rfl
  · rw [withNodeAgent_eq spec ⟨m, some ⟨selector, ⟨tm, some pod⟩, rest⟩, status⟩, ← h]
    rfl

theorem withNodeAgent_reread (spec : Agent.Spec) :
    withNodeAgent spec (withNodeAgent spec {}).reread = withNodeAgent spec {} := by
  have htidy : TidyAgent {} := tidy_emptyObject .nodeAgent ""
  have hpod : agentPodOf (withNodeAgent spec {}) = withNodeAgentPod spec {} := rfl
  rw [withNodeAgent_reread_of_pod spec (by rw [hpod, withNodeAgentPod_reread])]
  exact (withNodeAgent_withNodeAgent_iff spec {}).2 (htidy.not_stray spec)

/-! ## Components -/

/-- The server loses nothing that the component writes where there is nothing: no variable
is blank, and the credentials of the registry secret are some. -/
structure Component.Lasts (c : Component) (s : Surroundings) (spec : Agent.Spec) : Prop where
  env : (c.freshPod s.nodes spec).NoBlank
  data : c = .registrySecret → ∀ r ∈ s.registry, r.data.isEmpty = false

/-- The user's affinity of the component holds nothing empty. -/
def Component.OwnAffinityLasts (c : Component) (s : Surroundings) (spec : Agent.Spec) : Prop :=
  ∀ p ∈ c.deploymentPlan? s.nodes spec, ∀ a ∈ p.affinity, a.pruned = a

/-- Of what a component makes of nothing only variables are lost, unless it is the registry
secret. -/
theorem Component.Change.pruned_eq {kubelet : String} (h : Component.Change s spec c o f)
    (ho : o = c.emptyObject kubelet) (haffinity : c.OwnAffinityLasts s spec)
    (hc : c ≠ .registrySecret) : f.pruned = f.reread := by
  cases h with
  | configMap m =>
    cases ho
    have hdata : prunedDict (some (configMapData spec)) = some (configMapData spec) :=
      prunedDict_ofList (List.cons_ne_nil _ _)
    simp [Object.pruned, Object.reread, ConfigMap.pruned, ObjectMeta.pruned, hdata]
  | registrySecret secret hr => exact absurd rfl hc
  | priorityClass p =>
    cases ho
    simp [Object.pruned, Object.reread, PriorityClass.pruned, withPriority, ObjectMeta.pruned]
  | @enforcerTls secret tls htls =>
    cases ho
    have hdata : prunedDict (some tls.toSecretData) = some tls.toSecretData :=
      prunedDict_ofList (List.cons_ne_nil _ _)
    simp [Object.pruned, Object.reread, Secret.pruned, ObjectMeta.pruned, hdata]
  | @validatingWebhook w tls htls =>
    cases ho
    exact congrArg Object.validatingWebhookConfiguration
      (pruned_withValidatingEntries s.kubelet tls spec _)
  | @mutatingWebhook w tls htls =>
    cases ho
    exact congrArg Object.mutatingWebhookConfiguration
      (pruned_withMutatingEntries s.kubelet tls spec _)
  | @deployment _ d p hp =>
    rw [emptyObject_of_deploymentPlan? hp] at ho
    cases ho
    exact congrArg Object.deployment (p.pruned_apply (deploymentPlan?_proper hp)
      (deploymentPlan?_lasting hp) (haffinity p hp) spec)
  | @service _ d p hp =>
    rw [emptyObject_of_servicePlan? hp] at ho
    cases ho
    exact congrArg Object.service p.pruned_apply
  | nodeAgent d =>
    cases ho
    exact congrArg Object.daemonSet (pruned_withNodeAgent spec)

/-- What was made of nothing is made of what is read back of it. -/
theorem Component.Change.of_pruned {kubelet : String} (h : Component.Change s spec c o f)
    (ho : o = c.emptyObject kubelet) (haffinity : c.OwnAffinityLasts s spec) :
    Component.Change s spec c f.pruned f := by
  have hagain : Component.Change s spec c f f := by
    obtain ⟨f', hchange, hiff⟩ := h.again
    rwa [hiff.2 ((ho ▸ tidy_emptyObject c kubelet : c.Tidy o).not_stray s spec)] at hchange
  by_cases hc : c = .registrySecret
  · subst hc
    cases h with
    | registrySecret secret hr =>
      cases ho
      exact .registrySecret _ hr
    | deployment d hp => cases hp
    | service d hp => cases hp
  rw [h.pruned_eq ho haffinity hc]
  cases h with
  | @deployment _ d p hp =>
    rw [emptyObject_of_deploymentPlan? hp] at ho
    cases ho
    have hchange : Component.Change s spec c (.deployment (p.apply spec {}).reread) _ :=
      .deployment _ hp
    rwa [p.apply_reread (deploymentPlan?_proper hp)] at hchange
  | nodeAgent d =>
    cases ho
    have hchange : Component.Change s spec .nodeAgent
        (.daemonSet (withNodeAgent spec {}).reread) _ := .nodeAgent _
    rwa [withNodeAgent_reread] at hchange
  | _ => exact hagain

/-- No container that is made of nothing has an empty list of variables. -/
theorem Component.env_ne_of_mem_freshPod {d : Container}
    (hd : d ∈ (c.freshPod nodes spec).containers) : d.env ≠ some [] := by
  have hne {e : Env} {d : Container} (henv : d.env = settledEnv e none) : d.env ≠ some [] := by
    rw [henv, settledEnv_none]
    cases e.build <;> nofun
  by_cases hc : c.IsWorkload
  · rcases hc.cases nodes spec with ⟨p, hp⟩ | rfl
    · obtain ⟨d', hmade⟩ := DeploymentPlan.exists_made (deploymentPlan?_proper hp) spec
      rw [freshPod_of_deploymentPlan? hp, hmade.containers, List.mem_singleton] at hd
      exact hne (hd ▸ hmade.env)
    · cases agentContainer_of_mem hd with
      | sensor h => exact hne (withSensor_env spec _)
      | scanner h => exact hne (withScanner_env spec _)
  · rw [freshPod_of_not_isWorkload hc] at hd
    cases hd

theorem Component.Change.pruned_eq_self_iff {kubelet : String} (h : Component.Change s spec c o f)
    (ho : o = c.emptyObject kubelet) (haffinity : c.OwnAffinityLasts s spec) :
    f.pruned = f ↔ c.Lasts s spec := by
  by_cases hc : c = .registrySecret
  · subst hc
    cases h with
    | @registrySecret secret r hr =>
      cases ho
      have hdata : (Object.secret { type := some r.type, data := some r.data }).pruned
            = .secret { type := some r.type, data := some r.data } ↔ r.data.isEmpty = false := by
        simp [Object.pruned, Secret.pruned, ObjectMeta.pruned, prunedDict]
      refine hdata.trans ⟨fun hsome => ⟨?_, fun _ r' hr' => ?_⟩, fun h => h.data rfl r hr⟩
      · rw [freshPod_of_not_isWorkload (by simp [IsWorkload, kind])]
        exact fun d hd => absurd hd List.not_mem_nil
      · cases hr.symm.trans hr'
        exact hsome
    | deployment d hp => cases hp
    | service d hp => cases hp
  · have henv : ∀ d ∈ f.pod.containers, d.env ≠ some [] := by
      rw [h.pod ho]
      exact fun d hd => env_ne_of_mem_freshPod hd
    rw [h.pruned_eq ho haffinity hc, Object.reread_eq_iff, PodSpec.reread_eq_iff henv, h.pod ho]
    exact ⟨fun h => ⟨h, fun hsecret => absurd hsecret hc⟩, fun h => h.env⟩

/-! ## Pass after pass -/

/-- What is read back of the component's object: after it was made of nothing, and after
what was read back was brought to the spec again. -/
inductive Component.ReadBack (c : Component) (s : Surroundings) (spec : Agent.Spec) :
    Object → Prop where
  | first {o : Object} (h : c.mutate s spec (c.emptyObject s.kubelet) = .ok o) :
    ReadBack c s spec o.pruned
  | again {o o' : Object} (h : ReadBack c s spec o) (hagain : c.mutate s spec o = .ok o') :
    ReadBack c s spec o'.pruned

/-- However often an object was written and read back, it is as it was the first time. -/
theorem Component.ReadBack.eq_pruned (h : c.ReadBack s spec o)
    (hfirst : Component.Change s spec c (c.emptyObject s.kubelet) f)
    (haffinity : c.OwnAffinityLasts s spec) : o = f.pruned := by
  induction h with
  | first h =>
    cases h.symm.trans hfirst.mutate
    rfl
  | again _ hagain ih =>
    rw [ih, (hfirst.of_pruned rfl haffinity).mutate] at hagain
    cases hagain
    rfl

/-- **No flapping, exactly when nothing is lost.** What a component that is ready makes of
nothing, every later pass makes of what is read back of it. And the pass leaves what it
read as it is, so that there is nothing to update, exactly when no variable is blank and
the registry secret has data. -/
theorem Component.mutate_readBack_iff (hready : c.refusal s = none)
    (haffinity : c.OwnAffinityLasts s spec) :
    ∃ f, c.mutate s spec (c.emptyObject s.kubelet) = .ok f ∧
      ∀ o, c.ReadBack s spec o →
        o = f.pruned ∧ c.mutate s spec o = .ok f ∧
          (c.mutate s spec o = .ok o ↔ c.Lasts s spec) := by
  obtain ⟨f, hfirst⟩ := Component.exists_change spec (emptyObject_kind c s.kubelet) hready
  have hback := (hfirst.of_pruned rfl haffinity).mutate
  refine ⟨f, hfirst.mutate, fun o ho => ?_⟩
  obtain rfl := ho.eq_pruned hfirst haffinity
  refine ⟨rfl, hback, ?_⟩
  rw [hback, Except.ok.injEq, eq_comm, hfirst.pruned_eq_self_iff rfl haffinity]

/-- A spec with a host for every gateway, and the defaults for all else. -/
def plainSpec : Agent.Spec :=
  ({ account := "acc"
     clusterName := "c"
     version := "1.0.0"
     gateways :=
      { apiGateway := { host := "api.example.com" }
        coreEventsGateway := { host := "core.example.com" }
        hardeningEventsGateway := { host := "hardening.example.com" }
        runtimeEventsGateway := { host := "runtime.example.com" } } } : Agent.Spec).withDefaults

/-- The monitor is left as it is read back. -/
theorem monitor_stays_as_read :
    ∃ f, Component.monitor.mutate {} plainSpec (.deployment {}) = .ok f ∧
      Component.monitor.mutate {} plainSpec f.pruned = .ok f.pruned := by
  have haffinity : Component.monitor.OwnAffinityLasts {} plainSpec := by
    intro p hp a ha
    cases hp
    cases ha
  have hlasts : Component.monitor.Lasts {} plainSpec := ⟨by decide +kernel, nofun⟩
  obtain ⟨f, hfirst, hback⟩ := Component.mutate_readBack_iff rfl haffinity
  exact ⟨f, hfirst, (hback f.pruned (.first hfirst)).2.2.2 hlasts⟩

def skippedVar : String := "CLUSTER_SCANNER_CLI_FLAGS_SKIP_DIRS_OR_FILES"

/-- A scanner that is to skip nothing is told so by an empty variable, unless the user gives
that variable. -/
theorem nodeAgent_not_lasts
    (hscanning : spec.components.clusterScanning.enabled = true)
    (hskip : spec.components.clusterScanning.clusterScanner.cliFlags.skipDirsOrFiles = [])
    (huser : spec.components.clusterScanning.clusterScanner.env.get? skippedVar = none) :
    ¬ Component.nodeAgent.Lasts s spec := by
  let scanner := withScanner spec { name := scannerContainerName }
  have hreads : scanner.Reads skippedVar "" := by
    refine reads_of_getElem? (i := 9) (withScanner_env spec _) ?_ ?_
    · simp [scannerEnv, hskip, skippedVar, String.intercalate]
    · rw [skippedVar] at huser ⊢
      simp [scannerEnv, or_imp, forall_and, silent_user huser, silent_proxy]
      exact fun _ hs => silent_of_mem_engineEnv hs (by decide)
  have hmem : scanner ∈ (Component.nodeAgent.freshPod s.nodes spec).containers := by
    show scanner ∈ (withNodeAgentPod spec {}).containers
    rw [withNodeAgentPod_eq]
    show scanner ∈ agentContainers spec []
    rw [agentContainers_nil, containersIf, hscanning]
    exact List.mem_append_right _ (List.mem_singleton_self _)
  exact fun h => h.env scanner hmem _ hreads.1 rfl

/-- Under the defaults the scanner has nothing to skip, so its variable is lost and written
again in every pass. -/
theorem nodeAgent_flaps :
    ∃ f o, Component.nodeAgent.refusal {} = none ∧
      Component.nodeAgent.OwnAffinityLasts {} plainSpec ∧
      Component.nodeAgent.mutate {} plainSpec (.daemonSet {}) = .ok f ∧
      Component.nodeAgent.mutate {} plainSpec f.pruned = .ok o ∧ o ≠ f.pruned := by
  have hfirst : Component.Change {} plainSpec .nodeAgent (.daemonSet {})
      (.daemonSet (withNodeAgent plainSpec {})) := .nodeAgent {}
  have haffinity : Component.nodeAgent.OwnAffinityLasts {} plainSpec := fun p hp => by cases hp
  have hempty : Object.daemonSet {} = Component.nodeAgent.emptyObject "" := rfl
  have hblank : ¬ Component.nodeAgent.Lasts {} plainSpec := nodeAgent_not_lasts rfl rfl rfl
  refine ⟨_, _, rfl, haffinity, hfirst.mutate, (hfirst.of_pruned hempty haffinity).mutate, ?_⟩
  exact fun heq => hblank ((hfirst.pruned_eq_self_iff hempty haffinity).1 heq.symm)

end AgentOperator.Dataplane
