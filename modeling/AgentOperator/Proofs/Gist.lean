import AgentOperator.Proofs.Overwriting
import AgentOperator.Proofs.Tidy

/-!
AgentOperator.Proofs.Gist — what the last spec alone decides of an object.

The *gist* of an object is all of it but three things: annotations, to which
every spec adds; the amounts of resources and the pull secrets, which stay as an
earlier spec wrote them while they come to the same. What a component makes of
the gist is decided by the gist (`Component.Change.gist_congr`), and of what it
wrote for one spec nothing is left in the gist once it has written another
(`Component.Change.gist_over`).
-/

namespace AgentOperator.Kube

/-! ## Gists -/

/-- A container without the amounts of its resources. -/
def Container.gist (c : Container) : Container :=
  { c with resources := some { c.resources.getD {} with limits := none, requests := none } }

/-- A pod without pull secrets, nor amounts of resources. -/
def PodSpec.gist (pod : PodSpec) : PodSpec :=
  { pod with imagePullSecrets := none, containers := pod.containers.map Container.gist }

/-- Metadata without annotations. -/
def ObjectMeta.gist (m : ObjectMeta) : ObjectMeta := { m with annotations := none }

def PodTemplateSpec.gist (t : PodTemplateSpec) : PodTemplateSpec where
  metadata := t.metadata.map ObjectMeta.gist
  spec := t.spec.map PodSpec.gist

def Deployment.gist (d : Deployment) : Deployment :=
  { d with
    metadata := d.metadata.gist
    spec := d.spec.map fun s => { s with template := s.template.gist } }

def DaemonSet.gist (d : DaemonSet) : DaemonSet :=
  { d with
    metadata := d.metadata.gist
    spec := d.spec.map fun s => { s with template := s.template.gist } }

def Object.gist : Object → Object
  | .deployment d => .deployment d.gist
  | .daemonSet d => .daemonSet d.gist
  | o => o.withMetadata o.metadata.gist

end AgentOperator.Kube

namespace AgentOperator.Dataplane

open Kube (Container DaemonSet Deployment Object ObjectMeta PodSpec PodTemplateSpec
  ResourceRequirements Webhook WebhookConfiguration versionAtLeast)
open Workload

/-! ## Containers -/

/-- Amounts of resources are written, or kept, beside the rest. -/
theorem settledResources_rest (desired : ResourceRequirements)
    (r : Option ResourceRequirements) :
    ((settledResources desired r).getD {}).rest = (r.getD {}).rest := by
  unfold settledResources
  split <;> rfl

theorem ContainerPlan.gist_apply_gist {p : ContainerPlan} (hp : p.Proper) (spec : Agent.Spec)
    (c : Container) : (p.apply spec c.gist).gist = (p.apply spec c).gist := by
  obtain ⟨change, hsecure, -⟩ := hp.secure_settles
  rw [apply_eq spec hp.mounts_ne_nil hsecure, apply_eq spec hp.mounts_ne_nil hsecure]
  simp only [settled, Container.gist, settledResources_rest, Option.getD_some]

/-- Two plans of one container under different specs. -/
structure ContainerPlan.Alike (q p : ContainerPlan) : Prop where
  probes : q.probes.isSome = p.probes.isSome
  secure : q.secure = p.secure
  port : q.port.map (·.1) = p.port.map (·.1)
  mounts : q.mounts = p.mounts

theorem ContainerPlan.gist_apply_over {q p : ContainerPlan} (hp : p.Proper) (h : q.Alike p)
    (spec spec' : Agent.Spec) (name : String) :
    (p.apply spec (q.apply spec' { name })).gist = (p.apply spec { name }).gist := by
  obtain ⟨change, hsecure, hchange⟩ := hp.secure_settles
  have hmounts := settledMounts_over hp.mounts_nodup hp.mounts_nodup fun _ => rfl
  have henv := settledEnv_over (Env.proper_ofSources q.env) (Env.proper_ofSources p.env)
  rw [apply_eq spec hp.mounts_ne_nil hsecure, apply_eq spec hp.mounts_ne_nil hsecure,
    apply_eq spec' (h.mounts ▸ hp.mounts_ne_nil) (h.secure.trans hsecure), h.mounts]
  have hprobes : p.probes = none ∧ q.probes = none ∨
      ∃ a b, p.probes = some a ∧ q.probes = some b := by
    have hsame := h.probes
    cases hp : p.probes <;> cases hq : q.probes <;> simp [hp, hq] at hsame ⊢
  have hport : p.port = none ∧ q.port = none ∨
      ∃ name a b, p.port = some (name, a) ∧ q.port = some (name, b) := by
    have hsame := h.port
    rcases hp : p.port with _ | ⟨name, a⟩ <;> rcases hq : q.port with _ | ⟨name', b⟩ <;>
      simp [hp, hq] at hsame ⊢
    exact hsame
  rcases hprobes with ⟨hp, hq⟩ | ⟨probes, probes', hp, hq⟩ <;>
    rcases hport with ⟨hp', hq'⟩ | ⟨portName, port, port', hp', hq'⟩ <;>
    simp only [settled, Container.gist, settledResources_rest, Option.getD_some, Option.getD_none,
      hmounts, henv, hchange _, hp, hq, hp', hq', httpProbe_over, settledPort_over]

/-! ## Pods -/

/-- The container that is kept has the gist of the one that would be kept
otherwise, once it is written. -/
theorem DeploymentPlan.gist_settledContainer_gist {p : DeploymentPlan} (hp : p.container.Proper)
    (spec : Agent.Spec) (containers : List Container) :
    (p.settledContainer spec (containers.map Container.gist)).gist
      = (p.settledContainer spec containers).gist := by
  match containers with
  | [] => rfl
  | [c] => exact ContainerPlan.gist_apply_gist hp spec { c with name := p.name }
  | _ :: _ :: _ => rfl

theorem DeploymentPlan.gist_applyPod_gist {p : DeploymentPlan} (hp : p.Proper)
    (spec : Agent.Spec) (pod : PodSpec) :
    (p.applyPod spec pod.gist).gist = (p.applyPod spec pod).gist := by
  have hcontainer := gist_settledContainer_gist hp.container spec pod.containers
  rw [applyPod_eq hp.volumes_ne_nil, applyPod_eq hp.volumes_ne_nil]
  simp only [PodSpec.gist, List.map_cons, List.map_nil, hcontainer]

/-- Two plans of one deployment under different specs. -/
structure DeploymentPlan.Alike (q p : DeploymentPlan) : Prop where
  name : q.name = p.name
  volumes : q.volumes = p.volumes
  container : q.container.Alike p.container

theorem DeploymentPlan.gist_applyPod_over {q p : DeploymentPlan} (hq : q.Proper) (hp : p.Proper)
    (h : q.Alike p) (spec spec' : Agent.Spec) :
    (p.applyPod spec (q.applyPod spec' {})).gist = (p.applyPod spec {}).gist := by
  have hvolumes : settledVolumes p.volumes (some (settledVolumes p.volumes none))
      = settledVolumes p.volumes none :=
    settledVolumes_over hp.volumes_nodup hp.volumes_nodup fun _ => rfl
  have hcontainer : (p.settledContainer spec [q.settledContainer spec' []]).gist
      = (p.settledContainer spec []).gist := by
    have hname : p.name = (q.container.apply spec' { name := q.name }).name := by
      rw [ContainerPlan.apply_name hq.container, h.name]
    have hagain : p.settledContainer spec [q.settledContainer spec' []]
        = p.container.apply spec (q.container.apply spec' { name := q.name }) := by
      show p.container.apply spec
        { q.container.apply spec' { name := q.name } with name := p.name } = _
      rw [hname]
    rw [hagain, h.name]
    exact ContainerPlan.gist_apply_over hp.container h.container spec spec' p.name
  rw [applyPod_eq hp.volumes_ne_nil, applyPod_eq hp.volumes_ne_nil,
    applyPod_eq hq.volumes_ne_nil, h.volumes]
  simp only [PodSpec.gist, List.map_cons, List.map_nil, hcontainer, hvolumes]

/-! ## Deployments -/

theorem DeploymentPlan.gist_apply_gist {p : DeploymentPlan} (hp : p.Proper) (spec : Agent.Spec)
    (d : Deployment) : (p.apply spec d.gist).gist = (p.apply spec d).gist := by
  have hpod : (p.applyPod spec (podOf d.gist)).gist = (p.applyPod spec (podOf d)).gist := by
    rcases d with ⟨m, _ | ⟨replicas, selector, ⟨tm, _ | pod⟩, rest⟩, status⟩
    · rfl
    · rfl
    · exact gist_applyPod_gist hp spec pod
  rw [apply_eq, apply_eq]
  rcases d with ⟨m, _ | ⟨replicas, selector, ⟨_ | tm, pod⟩, rest⟩, status⟩ <;>
    simp only [Deployment.gist, Option.map_some, Option.map_none, PodTemplateSpec.gist,
      ObjectMeta.gist, Labelled.settled, Labelled.withLabels, Labelled.withAnnotations,
      Labelled.templateMeta, Option.getD_some, Option.getD_none] at hpod ⊢ <;>
    rw [hpod]

theorem DeploymentPlan.gist_apply_over {q p : DeploymentPlan} (hq : q.Proper) (hp : p.Proper)
    (h : q.Alike p) (spec spec' : Agent.Spec) :
    (p.apply spec (q.apply spec' {})).gist = (p.apply spec {}).gist := by
  have hpod := gist_applyPod_over hq hp h spec spec'
  have hpod' : podOf (q.apply spec' {}) = q.applyPod spec' {} := rfl
  rw [apply_eq, apply_eq p spec {}, hpod']
  rw [apply_eq q]
  simp only [Deployment.gist, Option.map_some, PodTemplateSpec.gist, ObjectMeta.gist,
    Labelled.settled, Labelled.withLabels, Labelled.withAnnotations, Labelled.templateMeta,
    Option.getD_some, Option.getD_none, hpod]
  rfl

/-! ## Containers of the node agent -/

/-- Containers of one gist have one name. -/
theorem name_eq_of_gist {c d : Container} (h : c.gist = d.gist) : c.name = d.name := by
  have hname : c.gist.name = d.gist.name := congrArg Container.name h
  exact hname

theorem names_eq_of_gist {cs ds : List Container}
    (h : cs.map Container.gist = ds.map Container.gist) :
    containerNaming.names cs = containerNaming.names ds := by
  have hnames := congrArg (List.map Container.name) h
  rwa [List.map_map, List.map_map] at hnames

theorem takeContainer?_gist (name : String) (cs : List Container) :
    takeContainer? name (cs.map Container.gist)
      = (takeContainer? name cs).map fun e => (e.1.gist, e.2.map Container.gist) := by
  have hnamed : namedContainer name ∘ Container.gist = namedContainer name := rfl
  simp only [takeContainer?, List.findIdx?_map, hnamed, List.getElem?_map, List.getLast?_map]
  cases cs.findIdx? (namedContainer name) with
  | none => rfl
  | some i =>
    cases hc : cs[i]? <;> cases hlast : cs.getLast? <;> simp [hc, List.map_dropLast, List.map_set]

theorem carryOver_gist_congr (wanted : List String) {cs ds : List Container}
    (h : cs.map Container.gist = ds.map Container.gist) :
    (carryOver wanted cs).map Container.gist = (carryOver wanted ds).map Container.gist := by
  induction wanted generalizing cs ds with
  | nil => rfl
  | cons name wanted ih =>
    have htake := (takeContainer?_gist name cs).symm.trans
      ((congrArg (takeContainer? name) h).trans (takeContainer?_gist name ds))
    rw [carryOver, carryOver]
    rcases hc : takeContainer? name cs with _ | ⟨c, rest⟩ <;>
      rcases hd : takeContainer? name ds with _ | ⟨d, rest'⟩ <;>
      simp only [hc, hd, Option.map_none, Option.map_some, reduceCtorEq, Option.some.injEq,
        Prod.mk.injEq] at htake
    · simp only [List.map_cons, ih h]
    · simp only [List.map_cons, htake.1, ih htake.2]

theorem selectContainers_gist_congr (wanted : List String) {cs ds : List Container}
    (h : cs.map Container.gist = ds.map Container.gist) :
    (selectContainers wanted cs).map Container.gist
      = (selectContainers wanted ds).map Container.gist := by
  have hnames := names_eq_of_gist h
  by_cases hc : Complete wanted cs
  · rwa [selectContainers_of_complete hc, selectContainers_of_complete (hc.of_names hnames.symm)]
  · have hd : ¬ Complete wanted ds := fun hd => hc (hd.of_names hnames)
    rw [selectContainers, selectContainers, if_neg (mt (complete_iff wanted cs).1 hc),
      if_neg (mt (complete_iff wanted ds).1 hd)]
    exact carryOver_gist_congr wanted h

theorem gist_withSensor_gist (spec : Agent.Spec) (c : Container) :
    (withSensor spec c.gist).gist = (withSensor spec c).gist := by
  rw [withSensor_eq, withSensor_eq]
  simp only [sensorSettled, Container.gist, settledResources_rest, Option.getD_some]

theorem gist_withScanner_gist (spec : Agent.Spec) (c : Container) :
    (withScanner spec c.gist).gist = (withScanner spec c).gist := by
  rw [withScanner_eq, withScanner_eq]
  simp only [scannerSettled, Container.gist, settledResources_rest, Option.getD_some]

theorem modify_gist_congr {change : Container → Container} (name : String)
    (hchange : ∀ c, (change c.gist).gist = (change c).gist) {cs ds : List Container}
    (h : cs.map Container.gist = ds.map Container.gist) :
    (Keyed.modify (namedContainer name) change cs).map Container.gist
      = (Keyed.modify (namedContainer name) change ds).map Container.gist := by
  induction cs generalizing ds with
  | nil => rw [List.map_eq_nil_iff.1 h.symm]
  | cons c cs ih =>
    obtain ⟨d, ds, rfl⟩ := List.exists_cons_of_ne_nil (l := ds) fun hnil => by
      rw [hnil] at h
      cases h
    simp only [List.map_cons, List.cons.injEq] at h
    have hnamed : namedContainer name c = namedContainer name d := by
      rw [namedContainer, namedContainer, name_eq_of_gist h.1]
    have hgist : (change c).gist = (change d).gist := by
      rw [← hchange c, h.1, hchange d]
    by_cases hd : namedContainer name d
    · simp only [Keyed.modify, hnamed, hd, if_true, List.map_cons, hgist, h.2]
    · simp only [Keyed.modify, hnamed, hd, if_false, List.map_cons, h.1, ih h.2, Bool.false_eq_true]

theorem agentContainers_gist_congr (spec : Agent.Spec) {cs ds : List Container}
    (h : cs.map Container.gist = ds.map Container.gist) :
    (agentContainers spec cs).map Container.gist = (agentContainers spec ds).map Container.gist :=
  modify_gist_congr scannerContainerName (gist_withScanner_gist spec) <|
    modify_gist_congr sensorContainerName (gist_withSensor_gist spec) <|
      selectContainers_gist_congr (wantedContainers spec) h

/-- The containers of some of two components, each in its place. -/
def containersIf (runtime scanning : Bool) (sensor scanner : Container) : List Container :=
  (if runtime then [sensor] else []) ++ if scanning then [scanner] else []

/-- Where just the enabled components had containers, the containers of those that
are enabled now are made of theirs, or of nothing. -/
theorem agentContainers_containersIf (spec : Agent.Spec) {runtime scanning : Bool}
    {sensor scanner : Container} (hsensor : sensor.name = sensorContainerName)
    (hscanner : scanner.name = scannerContainerName) :
    agentContainers spec (containersIf runtime scanning sensor scanner)
      = containersIf spec.components.runtimeProtection.enabled
          spec.components.clusterScanning.enabled
          (withSensor spec (if runtime then sensor else { name := sensorContainerName }))
          (withScanner spec (if scanning then scanner else { name := scannerContainerName })) := by
  have hne : sensorContainerName ≠ scannerContainerName := by decide
  cases runtime <;> cases scanning <;>
    cases hr : spec.components.runtimeProtection.enabled <;>
    cases hs : spec.components.clusterScanning.enabled <;>
    simp [agentContainers, wantedContainers, containersIf, hr, hs, selectContainers, carryOver,
      takeContainer?, namedContainer, Keyed.modify, hsensor, hscanner, withSensor_name, hne,
      hne.symm, List.findIdx?_cons]

/-- The containers of the empty node agent brought to a spec. -/
theorem agentContainers_nil (spec : Agent.Spec) : agentContainers spec [] = containersIf
    spec.components.runtimeProtection.enabled spec.components.clusterScanning.enabled
    (withSensor spec { name := sensorContainerName })
    (withScanner spec { name := scannerContainerName }) :=
  @agentContainers_containersIf spec false false { name := sensorContainerName }
    { name := scannerContainerName } rfl rfl

theorem settledMetricsPort_over (p q : Agent.Prometheus) :
    settledMetricsPort p (settledMetricsPort q none) = settledMetricsPort p none := by
  by_cases hp : p.enabled <;> by_cases hq : q.enabled <;>
    simp only [settledMetricsPort, hp, hq, if_true, if_false, Bool.false_eq_true, settledPort_over]

theorem gist_withSensor_over (spec spec' : Agent.Spec) (name : String) :
    (withSensor spec (withSensor spec' { name })).gist = (withSensor spec { name }).gist := by
  rw [withSensor_eq, withSensor_eq, withSensor_eq]
  simp only [sensorSettled, Container.gist, settledResources_rest, Option.getD_some,
    Option.getD_none, settledEnv_over (Env.proper_ofSources _) (Env.proper_ofSources _),
    settledMetricsPort_over, fileProbe_over]

theorem gist_withScanner_over (spec spec' : Agent.Spec) (name : String) :
    (withScanner spec (withScanner spec' { name })).gist = (withScanner spec { name }).gist := by
  have hmounts := settledMounts_over
    (scannerMounts_nodup spec.components.clusterScanning.clusterScanner)
    (scannerMounts_nodup spec'.components.clusterScanning.clusterScanner)
    scannerMounts_names_of_length
  rw [withScanner_eq, withScanner_eq, withScanner_eq]
  simp only [scannerSettled, Container.gist, settledResources_rest, Option.getD_some,
    Option.getD_none, settledEnv_over (Env.proper_ofSources _) (Env.proper_ofSources _),
    settledMetricsPort_over, fileProbe_over, hmounts]

theorem gist_agentContainers_over (spec spec' : Agent.Spec) :
    (agentContainers spec (agentContainers spec' [])).map Container.gist
      = (agentContainers spec []).map Container.gist := by
  have hsensor : (withSensor spec' { name := sensorContainerName }).name = sensorContainerName :=
    withSensor_name spec' { name := sensorContainerName }
  have hscanner : (withScanner spec' { name := scannerContainerName }).name
      = scannerContainerName := withScanner_name spec' { name := scannerContainerName }
  rw [agentContainers_nil spec', agentContainers_nil spec,
    agentContainers_containersIf spec hsensor hscanner]
  cases spec'.components.runtimeProtection.enabled <;>
    cases spec'.components.clusterScanning.enabled <;>
    cases spec.components.runtimeProtection.enabled <;>
    cases spec.components.clusterScanning.enabled <;>
    simp [containersIf, gist_withSensor_over, gist_withScanner_over]

/-! ## The node agent -/

theorem scannerVolumes_shapes (scanner : Agent.ClusterScanner) :
    (scannerVolumes scanner).map (·.shape)
      = ((engineSockets scanner).map (·.1)).map (.hostPath · "") ++
        [.hostPath crioStorageVolume "", .hostPath crioStorageConfigVolume "",
          .hostPath crioConfigVolume "", .rootCAs] := by
  simp only [scannerVolumes, List.map_append, List.map_map]
  rfl

theorem scannerVolumes_shapes_of_length {a b : Agent.ClusterScanner}
    (h : (scannerVolumes a).length = (scannerVolumes b).length) :
    (scannerVolumes a).map (·.shape) = (scannerVolumes b).map (·.shape) := by
  have hsockets : (engineSockets a).length = (engineSockets b).length := by
    simpa [scannerVolumes] using h
  rw [scannerVolumes_shapes, scannerVolumes_shapes, engineSockets_names_of_length hsockets]

theorem agentVolumes_over (spec spec' : Agent.Spec) :
    agentVolumes spec (agentVolumes spec' none) = agentVolumes spec none := by
  have hover := settledVolumes_over
    (scannerVolumes_nodup spec.components.clusterScanning.clusterScanner)
    (scannerVolumes_nodup spec'.components.clusterScanning.clusterScanner)
    scannerVolumes_shapes_of_length
  cases hp : spec.components.clusterScanning.enabled <;>
    cases hq : spec'.components.clusterScanning.enabled <;>
    simp only [agentVolumes, hp, hq, if_true, if_false, Bool.false_eq_true, hover]

theorem gist_withNodeAgentPod_gist (spec : Agent.Spec) (pod : PodSpec) :
    (withNodeAgentPod spec pod.gist).gist = (withNodeAgentPod spec pod).gist := by
  have hmap : pod.gist.containers.map Container.gist = pod.containers.map Container.gist := by
    simp only [PodSpec.gist, List.map_map, List.map_inj_left]
    exact fun _ _ => rfl
  have hcontainers := agentContainers_gist_congr spec hmap
  rw [withNodeAgentPod_eq, withNodeAgentPod_eq]
  simp only [PodSpec.gist] at hcontainers ⊢
  rw [hcontainers]

theorem gist_withNodeAgentPod_over (spec spec' : Agent.Spec) :
    (withNodeAgentPod spec (withNodeAgentPod spec' {})).gist = (withNodeAgentPod spec {}).gist := by
  have haffinity : settledAffinity [onLinux] (some (settledAffinity [onLinux] none))
      = settledAffinity [onLinux] none := settledAffinity_settled _ _
  rw [withNodeAgentPod_eq, withNodeAgentPod_eq, withNodeAgentPod_eq]
  simp only [PodSpec.gist, gist_agentContainers_over, agentVolumes_over, haffinity]

theorem gist_withNodeAgent_gist (spec : Agent.Spec) (d : DaemonSet) :
    (withNodeAgent spec d.gist).gist = (withNodeAgent spec d).gist := by
  have hpod : (withNodeAgentPod spec (agentPodOf d.gist)).gist
      = (withNodeAgentPod spec (agentPodOf d)).gist := by
    rcases d with ⟨m, _ | ⟨selector, ⟨tm, _ | pod⟩, rest⟩, status⟩
    · rfl
    · rfl
    · exact gist_withNodeAgentPod_gist spec pod
  rw [withNodeAgent_eq, withNodeAgent_eq]
  rcases d with ⟨m, _ | ⟨selector, ⟨_ | tm, pod⟩, rest⟩, status⟩ <;>
    simp only [DaemonSet.gist, Option.map_some, Option.map_none, PodTemplateSpec.gist,
      ObjectMeta.gist, Labelled.settled, Labelled.withLabels, Labelled.withAnnotations,
      Labelled.templateMeta, Option.getD_some, Option.getD_none] at hpod ⊢ <;>
    rw [hpod]

theorem gist_withNodeAgent_over (spec spec' : Agent.Spec) :
    (withNodeAgent spec (withNodeAgent spec' {})).gist = (withNodeAgent spec {}).gist := by
  have hpod := gist_withNodeAgentPod_over spec spec'
  have hpod' : agentPodOf (withNodeAgent spec' {}) = withNodeAgentPod spec' {} := rfl
  rw [withNodeAgent_eq, withNodeAgent_eq spec {}, hpod']
  rw [withNodeAgent_eq spec']
  simp only [DaemonSet.gist, Option.map_some, PodTemplateSpec.gist, ObjectMeta.gist,
    Labelled.settled, Labelled.withLabels, Labelled.withAnnotations, Labelled.templateMeta,
    Option.getD_some, Option.getD_none, hpod]
  rfl

/-! ## Services and webhooks -/

theorem ServicePlan.apply_over {q p : ServicePlan} (h : q.headless = p.headless) :
    p.apply (q.apply {}) = p.apply {} := by
  cases hp : p.headless <;> simp [apply, h, hp]

theorem keptEntries_nil (names : List String) :
    keptEntries names [] = names.map fun name => { name } := by
  by_cases h : HasEntries names []
  · rw [List.eq_nil_of_length_eq_zero h.1.symm, keptEntries]
    split <;> rfl
  · rw [keptEntries, if_neg h]

/-- Entries changed over entries that were changed before. -/
theorem map_keptEntries_over {change change' : Webhook → Webhook} (names : List String)
    (hname : ∀ w, (change' w).name = w.name)
    (h : ∀ name, change (change' { name }) = change { name }) :
    (keptEntries names ((keptEntries names []).map change')).map change
      = (keptEntries names []).map change := by
  have hkept := (hasEntries_keptEntries names []).map hname
  rw [keptEntries, if_pos hkept, keptEntries_nil, List.map_map, List.map_map, List.map_map]
  exact List.map_congr_left fun name _ => h name

theorem validatingEntry_over (kubelet : String) (tls tls' : TlsMaterial) (spec spec' : Agent.Spec)
    (name : String) :
    validatingEntry kubelet tls spec (validatingEntry kubelet tls' spec' { name })
      = validatingEntry kubelet tls spec { name } := by
  by_cases hname : name = validatingNamespacesName <;>
    by_cases hversion : versionAtLeast kubelet 1 14 <;>
    simp only [validatingEntry_eq, withEnforcerService, withCaBundle, hname, hversion, if_true,
      if_false, Bool.false_eq_true, Option.getD_some, Option.getD_none, settledRule_settled,
      settledNamespaces_over]

theorem mutatingEntry_over (kubelet : String) (tls tls' : TlsMaterial) (spec spec' : Agent.Spec)
    (name : String) :
    mutatingEntry kubelet tls spec (mutatingEntry kubelet tls' spec' { name })
      = mutatingEntry kubelet tls spec { name } := by
  by_cases h : versionAtLeast kubelet 1 14 <;> by_cases h' : versionAtLeast kubelet 1 15 <;>
    simp only [mutatingEntry_eq, withEnforcerService, withCaBundle, h, h', if_true, if_false,
      Bool.false_eq_true, Option.getD_some, Option.getD_none, settledRule_settled,
      settledNamespaces_over]

theorem withValidatingEntries_over {kubelet : String} {tls tls' : TlsMaterial}
    {spec spec' : Agent.Spec} {c : WebhookConfiguration} (h : c.webhooks = []) :
    withValidatingEntries kubelet tls spec (withValidatingEntries kubelet tls' spec' c)
      = withValidatingEntries kubelet tls spec c := by
  simp only [withValidatingEntries, withEntries_eq, withConfigurationLabels, h,
    map_keptEntries_over _ (validatingEntry_name kubelet tls' spec')
      (validatingEntry_over kubelet tls tls' spec spec')]

theorem withMutatingEntries_over {kubelet : String} {tls tls' : TlsMaterial}
    {spec spec' : Agent.Spec} {c : WebhookConfiguration} (h : c.webhooks = []) :
    withMutatingEntries kubelet tls spec (withMutatingEntries kubelet tls' spec' c)
      = withMutatingEntries kubelet tls spec c := by
  simp only [withMutatingEntries, withEntries_eq, withConfigurationLabels, h,
    map_keptEntries_over _ (mutatingEntry_name kubelet tls' spec')
      (mutatingEntry_over kubelet tls tls' spec spec')]

/-! ## Components -/

variable {c : Component} {s s' : Surroundings} {spec spec' : Agent.Spec} {o o₁ p p₁ f f' : Object}

/-- What a component makes of the gist of an object. -/
theorem Component.Change.of_gist (h : Component.Change s spec c o o₁) :
    ∃ o₂, Component.Change s spec c o.gist o₂ ∧ o₂.gist = o₁.gist := by
  cases h with
  | configMap m => exact ⟨_, .configMap _, rfl⟩
  | registrySecret secret hr => exact ⟨_, .registrySecret _ hr, rfl⟩
  | priorityClass p => exact ⟨_, .priorityClass _, rfl⟩
  | enforcerTls secret htls => exact ⟨_, .enforcerTls _ htls, rfl⟩
  | validatingWebhook w htls =>
    refine ⟨_, .validatingWebhook _ htls, ?_⟩
    simp only [withValidatingEntries, withEntries_eq, withConfigurationLabels]
    rfl
  | mutatingWebhook w htls =>
    refine ⟨_, .mutatingWebhook _ htls, ?_⟩
    simp only [withMutatingEntries, withEntries_eq, withConfigurationLabels]
    rfl
  | deployment d hp =>
    exact ⟨_, .deployment _ hp, congrArg Object.deployment
      (DeploymentPlan.gist_apply_gist (deploymentPlan?_proper hp) spec d)⟩
  | service d hp => exact ⟨_, .service _ hp, rfl⟩
  | nodeAgent d =>
    exact ⟨_, .nodeAgent _, congrArg Object.daemonSet (gist_withNodeAgent_gist spec d)⟩

theorem Component.Change.unique (h : Component.Change s spec c o o₁)
    (h' : Component.Change s spec c o p₁) : o₁ = p₁ := by
  have heq := h.mutate.symm.trans h'.mutate
  exact Except.ok.inj heq

/-- The gist of what a component makes of an object is decided by the gist of the
object. -/
theorem Component.Change.gist_congr (h : Component.Change s spec c o o₁)
    (h' : Component.Change s spec c p p₁) (hgist : o.gist = p.gist) : o₁.gist = p₁.gist := by
  obtain ⟨o₂, ho, ho₂⟩ := h.of_gist
  obtain ⟨p₂, hp, hp₂⟩ := h'.of_gist
  rw [← hgist] at hp
  rw [← ho₂, ← hp₂, ho.unique hp]

theorem Component.deploymentPlan?_alike {nodes nodes' : Option UInt64} {q p : DeploymentPlan}
    (hq : c.deploymentPlan? nodes' spec' = some q) (hp : c.deploymentPlan? nodes spec = some p) :
    q.Alike p := by
  cases c <;> simp only [deploymentPlan?, Option.some.injEq, reduceCtorEq] at hq hp <;>
    subst hq <;> subst hp <;> exact ⟨rfl, rfl, ⟨rfl, rfl, rfl, rfl⟩⟩

theorem Component.emptyObject_of_deploymentPlan? {nodes : Option UInt64} {q : DeploymentPlan}
    (hq : c.deploymentPlan? nodes spec = some q) (kubelet : String) :
    c.emptyObject kubelet = .deployment {} := by
  cases c <;> first | rfl | cases hq

theorem Component.emptyObject_of_servicePlan? {q : ServicePlan}
    (hq : c.servicePlan? spec = some q) (kubelet : String) :
    c.emptyObject kubelet = .service {} := by
  cases c <;> first | rfl | cases hq

theorem Component.servicePlan?_headless {q p : ServicePlan} (hq : c.servicePlan? spec' = some q)
    (hp : c.servicePlan? spec = some p) : q.headless = p.headless := by
  cases c <;> simp only [servicePlan?, Option.some.injEq, reduceCtorEq] at hq hp <;>
    subst hq <;> subst hp <;> rfl

/-- Nothing of what a component wrote into an empty object for one spec is left in
the gist once it has written another. -/
theorem Component.Change.gist_over (hkubelet : s'.kubelet = s.kubelet)
    (hold : Component.Change s' spec' c o f') (ho : o = c.emptyObject s.kubelet)
    (h : Component.Change s spec c f' o₁) (hnew : Component.Change s spec c o f) :
    o₁.gist = f.gist := by
  cases hold with
  | configMap m => cases h; cases hnew; rfl
  | registrySecret secret hr =>
    cases h with
    | registrySecret _ hr₁ =>
      cases hnew with
      | registrySecret _ hr₂ =>
        rw [Option.some.inj (hr₁.symm.trans hr₂)]
  | priorityClass p => cases h; cases hnew; rfl
  | enforcerTls secret htls =>
    cases h with
    | enforcerTls _ h₁ =>
      cases hnew with
      | enforcerTls _ h₂ =>
        rw [Except.ok.inj (h₁.symm.trans h₂)]
  | validatingWebhook w htls =>
    cases ho
    cases h with
    | validatingWebhook _ h₁ =>
      cases hnew with
      | validatingWebhook _ h₂ =>
        rw [Option.some.inj (h₁.symm.trans h₂), hkubelet, withValidatingEntries_over rfl]
  | mutatingWebhook w htls =>
    cases ho
    cases h with
    | mutatingWebhook _ h₁ =>
      cases hnew with
      | mutatingWebhook _ h₂ =>
        rw [Option.some.inj (h₁.symm.trans h₂), hkubelet, withMutatingEntries_over rfl]
  | @deployment _ d q hq =>
    rw [emptyObject_of_deploymentPlan? hq] at ho
    cases ho
    cases h with
    | @deployment _ _ p hp =>
      cases hnew with
      | @deployment _ _ p' hp' =>
        cases hp.symm.trans hp'
        exact congrArg Object.deployment (DeploymentPlan.gist_apply_over (deploymentPlan?_proper hq)
          (deploymentPlan?_proper hp) (deploymentPlan?_alike hq hp) spec spec')
  | @service _ d q hq =>
    rw [emptyObject_of_servicePlan? hq] at ho
    cases ho
    cases h with
    | @service _ _ p hp =>
      cases hnew with
      | @service _ _ p' hp' =>
        cases hp.symm.trans hp'
        rw [ServicePlan.apply_over (servicePlan?_headless hq hp)]
  | nodeAgent d =>
    cases ho
    cases h
    cases hnew
    exact congrArg Object.daemonSet (gist_withNodeAgent_over spec spec')

end AgentOperator.Dataplane
