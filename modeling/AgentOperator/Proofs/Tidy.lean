import AgentOperator.Proofs.Applying
import AgentOperator.Proofs.Objects

/-!
AgentOperator.Proofs.Tidy — what the dataplane itself writes can be read back
and is not stray.

Every component starts from an object that holds nothing and brings it to one
spec after the other. Through all of that an object stays *known*, so that it
is read back as it was written, and *tidy*: its volumes and mounts are none, or
exactly those of some spec. All specs name them alike as soon as they are as
many, so a tidy object is not stray for any of them.
-/

namespace AgentOperator.Dataplane

open Kube (AdmissionVersion Container DaemonSet Deployment Kind Object ObjectKey ObjectMeta PodSpec
  PodTemplateSpec Service Volume Webhook WebhookConfiguration WebhookKind versionAtLeast)
open Workload

/-! ## Known objects stay known -/

theorem VolumePlan.entry_known (p : VolumePlan) {v : Volume} (h : v.Known) :
    (p.entry.change v).Known := by
  cases p <;> exact h

theorem settledVolumes_known {plans : List VolumePlan} {volumes : Option (List Volume)}
    (h : ∀ vs, volumes = some vs → ∀ v ∈ vs, v.Known) : ∀ v ∈ settledVolumes plans volumes, v.Known := by
  unfold settledVolumes
  refine Keyed.forall_mem_settle Volume.known_fresh ?_ ?_
  · intro e he v hv
    obtain ⟨p, -, rfl⟩ := List.mem_map.1 he
    exact p.entry_known hv
  · cases volumes with
    | none =>
      intro v hv
      cases hv
    | some vs => exact h vs rfl

/-- Labels and annotations do not touch what else metadata holds. -/
theorem Labelled.settled_template_known (labels object template : Dict String) {w : Labelled}
    (h : ∀ m, w.template.metadata = some m → m.Known) :
    ∀ m, (w.settled labels object template).template.metadata = some m → m.Known := by
  intro m hm
  have hold : w.templateMeta.Known := by
    unfold Labelled.templateMeta
    cases ht : w.template.metadata with
    | none => exact ObjectMeta.known_default
    | some m => exact h m ht
  cases hm
  exact ⟨hold.deletion, hold.rest⟩

theorem DeploymentPlan.apply_known {p : DeploymentPlan} (hp : p.Proper) {spec : Agent.Spec}
    {d : Deployment} (h : d.Known) : (p.apply spec d).Known := by
  have htemplate : (d.spec.getD {}).template.Known := by
    cases hspec : d.spec with
    | none => exact PodTemplateSpec.known_default
    | some s => exact h.spec s hspec
  rw [apply_eq]
  refine ⟨⟨h.metadata.deletion, h.metadata.rest⟩, ?_, h.status⟩
  intro s hs
  cases hs
  refine ⟨Labelled.settled_template_known _ p.annotations _ htemplate.metadata, ?_⟩
  intro pod hpod
  cases hpod
  rw [applyPod_eq hp.volumes_ne_nil]
  intro vs hvs
  cases hvs
  exact settledVolumes_known htemplate.pod

theorem agentVolumes_known {spec : Agent.Spec} {volumes : Option (List Volume)}
    (h : ∀ vs, volumes = some vs → ∀ v ∈ vs, v.Known) :
    ∀ vs, agentVolumes spec volumes = some vs → ∀ v ∈ vs, v.Known := by
  intro vs hvs
  simp only [agentVolumes] at hvs
  split at hvs
  · cases hvs
    exact settledVolumes_known h
  · cases hvs

theorem withNodeAgent_known {spec : Agent.Spec} {d : DaemonSet} (h : d.Known) :
    (withNodeAgent spec d).Known := by
  have htemplate : (d.spec.getD {}).template.Known := by
    cases hspec : d.spec with
    | none => exact PodTemplateSpec.known_default
    | some s => exact h.spec s hspec
  rw [withNodeAgent_eq]
  refine ⟨⟨h.metadata.deletion, h.metadata.rest⟩, ?_, h.status⟩
  intro s hs
  cases hs
  refine ⟨Labelled.settled_template_known _ (nodeAgentAnnotations spec) _ htemplate.metadata, ?_⟩
  intro pod hpod
  cases hpod
  rw [withNodeAgentPod_eq]
  exact agentVolumes_known htemplate.pod

theorem ServicePlan.apply_known {p : ServicePlan} {s : Service} (h : s.Known) :
    (p.apply s).Known :=
  ⟨⟨h.metadata.deletion, h.metadata.rest⟩, h.status⟩

/-! ### Webhook configurations -/

/-- Entries that are kept or made anew fit their generation once they state
their side effects. -/
theorem fits_of_mem_keptEntries {kind : WebhookKind} {version : AdmissionVersion}
    {names : List String} {webhooks : List Webhook} {change : Webhook → Webhook}
    (h : ∀ w ∈ webhooks, w.Fits kind version)
    (hpolicy : ∀ w, (change w).reinvocationPolicy = w.reinvocationPolicy)
    (heffects : ∀ w, (change w).sideEffects.isSome = true) :
    ∀ w ∈ (keptEntries names webhooks).map change, w.Fits kind version := by
  intro w hw
  obtain ⟨v, hv, rfl⟩ := List.mem_map.1 hw
  refine ⟨fun hkind => ?_, fun _ => heffects v⟩
  rw [hpolicy]
  unfold keptEntries at hv
  split at hv
  · exact (h v hv).reinvocation hkind
  · obtain ⟨name, -, rfl⟩ := List.mem_map.1 hv
    rfl

theorem validatingEntry_policy (kubelet : String) (tls : TlsMaterial) (spec : Agent.Spec)
    (w : Webhook) : (validatingEntry kubelet tls spec w).reinvocationPolicy = w.reinvocationPolicy := by
  rw [validatingEntry_eq]

theorem validatingEntry_effects (kubelet : String) (tls : TlsMaterial) (spec : Agent.Spec)
    (w : Webhook) : (validatingEntry kubelet tls spec w).sideEffects.isSome = true := by
  rw [validatingEntry_eq]
  rfl

theorem mutatingEntry_policy (kubelet : String) (tls : TlsMaterial) (spec : Agent.Spec)
    (w : Webhook) : (mutatingEntry kubelet tls spec w).reinvocationPolicy = w.reinvocationPolicy := by
  rw [mutatingEntry_eq]

theorem mutatingEntry_effects (kubelet : String) (tls : TlsMaterial) (spec : Agent.Spec)
    (w : Webhook) : (mutatingEntry kubelet tls spec w).sideEffects.isSome = true := by
  rw [mutatingEntry_eq]
  rfl

theorem withValidatingEntries_version (kubelet : String) (tls : TlsMaterial) (spec : Agent.Spec)
    (c : WebhookConfiguration) :
    (withValidatingEntries kubelet tls spec c).version = c.version := by
  simp only [withValidatingEntries, withEntries_eq, withConfigurationLabels]

theorem withMutatingEntries_version (kubelet : String) (tls : TlsMaterial) (spec : Agent.Spec)
    (c : WebhookConfiguration) :
    (withMutatingEntries kubelet tls spec c).version = c.version := by
  simp only [withMutatingEntries, withEntries_eq, withConfigurationLabels]

theorem withValidatingEntries_known {kubelet : String} {tls : TlsMaterial} {spec : Agent.Spec}
    {c : WebhookConfiguration} (h : c.Known .validating) :
    (withValidatingEntries kubelet tls spec c).Known .validating := by
  simp only [withValidatingEntries, withEntries_eq, withConfigurationLabels]
  exact ⟨⟨h.metadata.deletion, h.metadata.rest⟩, fits_of_mem_keptEntries h.webhooks
    (validatingEntry_policy kubelet tls spec) (validatingEntry_effects kubelet tls spec)⟩

theorem withMutatingEntries_known {kubelet : String} {tls : TlsMaterial} {spec : Agent.Spec}
    {c : WebhookConfiguration} (h : c.Known .mutating) :
    (withMutatingEntries kubelet tls spec c).Known .mutating := by
  simp only [withMutatingEntries, withEntries_eq, withConfigurationLabels]
  exact ⟨⟨h.metadata.deletion, h.metadata.rest⟩, fits_of_mem_keptEntries h.webhooks
    (mutatingEntry_policy kubelet tls spec) (mutatingEntry_effects kubelet tls spec)⟩

/-! ### Any component -/

theorem known_emptyObject (c : Component) (kubelet : String) :
    (c.emptyObject kubelet).Known kubelet := by
  cases c <;> simp only [Component.emptyObject, Component.kind, Object.empty, Object.Known, true_and]
  all_goals first
    | exact ObjectMeta.known_default
    | exact ⟨ObjectMeta.known_default, fun _ hs => (by cases hs), fun _ hs => (by cases hs)⟩
    | exact ⟨ObjectMeta.known_default, fun _ hs => (by cases hs)⟩

theorem Component.Change.known {c : Component} {s : Surroundings} {spec : Agent.Spec}
    {o o₁ : Object} {kubelet : String} (h : Component.Change s spec c o o₁)
    (ho : o.Known kubelet) : o₁.Known kubelet := by
  cases h with
  | configMap m => exact ho
  | registrySecret secret hr => exact ho
  | priorityClass p => exact ho
  | enforcerTls secret htls => exact ho
  | validatingWebhook w htls =>
    exact ⟨(withValidatingEntries_version ..).trans ho.1, withValidatingEntries_known ho.2⟩
  | mutatingWebhook w htls =>
    exact ⟨(withMutatingEntries_version ..).trans ho.1, withMutatingEntries_known ho.2⟩
  | deployment d hp => exact DeploymentPlan.apply_known (deploymentPlan?_proper hp) ho
  | service d hp => exact ServicePlan.apply_known ho
  | nodeAgent d => exact withNodeAgent_known ho

/-! ## Tidy objects

Of a deployment the names of volumes and mounts are the same under every spec.
Those of the scanner depend on whether the user gives a socket, so that a
daemon set settled under one spec is only safe for the next one because plans
as long as each other have the same names. -/

/-- The plans of one component all name volumes and mounts alike. -/
theorem Component.deploymentPlan?_names {c : Component} {nodes nodes' : Option UInt64}
    {spec spec' : Agent.Spec} {p q : DeploymentPlan} (hp : c.deploymentPlan? nodes spec = some p)
    (hq : c.deploymentPlan? nodes' spec' = some q) :
    q.volumes.map (·.name) = p.volumes.map (·.name) ∧
      q.container.mounts.map (·.volume) = p.container.mounts.map (·.volume) := by
  cases c <;> simp only [deploymentPlan?, Option.some.injEq, reduceCtorEq] at hp hq <;>
    subst hp <;> subst hq <;> exact ⟨rfl, rfl⟩

/-- A deployment brought to its plan is not stray. -/
theorem DeploymentPlan.not_stray_apply {p : DeploymentPlan} (hp : p.Proper) (spec : Agent.Spec)
    (d : Deployment) : ¬ p.Stray (p.apply spec d) := by
  have hpod : podOf (p.apply spec d) = p.applyPod spec (podOf d) := rfl
  obtain ⟨change, hsecure, -⟩ := hp.container.secure_settles
  rw [Stray, hpod, applyPod_eq hp.volumes_ne_nil]
  rintro (hvolumes | hmounts)
  · have hkept := Keyed.not_stray_settle (p.volumes.map VolumePlan.entry)
      ((podOf d).volumes.getD [])
    rw [VolumePlan.map_entry_name] at hkept
    exact hkept hvolumes
  · have hkept := Keyed.not_stray_settle (p.container.mounts.map MountPlan.entry)
      ((onlyContainer (podOf d).containers).volumeMounts.getD [])
    rw [MountPlan.map_entry_name] at hkept
    simp only [onlyContainer, ContainerPlan.Stray, settledContainer,
      ContainerPlan.apply_eq spec hp.container.mounts_ne_nil hsecure] at hmounts
    exact hkept hmounts

theorem engineSockets_names_of_length {a b : Agent.ClusterScanner}
    (h : (engineSockets a).length = (engineSockets b).length) :
    (engineSockets a).map (·.1) = (engineSockets b).map (·.1) := by
  have hlen : ((engineSockets a).map (·.1)).length = ((engineSockets b).map (·.1)).length := by
    rw [List.length_map, List.length_map, h]
  rw [engineSockets_names, engineSockets_names] at hlen ⊢
  by_cases ha : a.k8sContainerEngine.endpoint = "" <;>
    by_cases hb : b.k8sContainerEngine.endpoint = "" <;> simp [ha, hb] at hlen ⊢

theorem scannerVolumes_names_of_length {a b : Agent.ClusterScanner}
    (h : (scannerVolumes a).length = (scannerVolumes b).length) :
    (scannerVolumes a).map (·.name) = (scannerVolumes b).map (·.name) := by
  have hlen : (engineSockets a).length = (engineSockets b).length := by
    simpa [scannerVolumes] using h
  rw [scannerVolumes_names, scannerVolumes_names, engineSockets_names_of_length hlen]

theorem scannerMounts_names_of_length {a b : Agent.ClusterScanner}
    (h : (scannerMounts a).length = (scannerMounts b).length) :
    (scannerMounts a).map (·.volume) = (scannerMounts b).map (·.volume) := by
  have hlen : (engineSockets a).length = (engineSockets b).length := by
    simpa [scannerMounts] using h
  rw [scannerMounts_names, scannerMounts_names, engineSockets_names_of_length hlen]

/-- A container whose mounts are not stray, whatever the scanner is told. -/
def TidyMounts (c : Container) : Prop :=
  ∀ scanner, ¬ mountNaming.Stray ((scannerMounts scanner).map (·.volume)) (c.volumeMounts.getD [])

/-- A daemon set whose volumes and mounts are not stray, whatever the scanner is
told. -/
structure TidyAgent (d : DaemonSet) : Prop where
  volumes : ∀ scanner, ¬ volumeNaming.Stray ((scannerVolumes scanner).map (·.name))
    ((agentPodOf d).volumes.getD [])
  mounts : ∀ c ∈ (agentPodOf d).containers, TidyMounts c

theorem TidyMounts.fresh (name : String) : TidyMounts { name } :=
  fun _ => Keyed.not_stray_nil _

theorem TidyMounts.withSensor {c : Container} (h : TidyMounts c) (spec : Agent.Spec) :
    TidyMounts (withSensor spec c) := by
  intro scanner
  rw [withSensor_volumeMounts]
  exact h scanner

theorem TidyMounts.withScanner {c : Container} (h : TidyMounts c) (spec : Agent.Spec) :
    TidyMounts (withScanner spec c) := by
  intro scanner
  rw [withScanner_eq]
  let own := spec.components.clusterScanning.clusterScanner
  have hnames := MountPlan.map_entry_name (scannerMounts own)
  refine @Keyed.not_stray_settle_of_length _ _ ((scannerMounts own).map MountPlan.entry) ?_ _ ?_ _ ?_
  · rw [hnames]
    exact scannerMounts_nodup own
  · intro hlen
    rw [List.length_map, List.length_map] at hlen
    rw [hnames]
    exact scannerMounts_names_of_length hlen
  · rw [hnames]
    exact h own

theorem tidy_agentVolumes {spec : Agent.Spec} {volumes : Option (List Volume)}
    (h : ∀ scanner, ¬ volumeNaming.Stray ((scannerVolumes scanner).map (·.name))
      (volumes.getD [])) (scanner : Agent.ClusterScanner) :
    ¬ volumeNaming.Stray ((scannerVolumes scanner).map (·.name))
      ((agentVolumes spec volumes).getD []) := by
  simp only [agentVolumes]
  split
  · let own := spec.components.clusterScanning.clusterScanner
    have hnames := VolumePlan.map_entry_name (scannerVolumes own)
    refine @Keyed.not_stray_settle_of_length _ _ ((scannerVolumes own).map VolumePlan.entry)
      ?_ _ ?_ _ ?_
    · rw [hnames]
      exact scannerVolumes_nodup own
    · intro hlen
      rw [List.length_map, List.length_map] at hlen
      rw [hnames]
      exact scannerVolumes_names_of_length hlen
    · rw [hnames]
      exact h own
  · exact Keyed.not_stray_nil _

theorem tidy_agentContainers {spec : Agent.Spec} {containers : List Container}
    (h : ∀ c ∈ containers, TidyMounts c) : ∀ c ∈ agentContainers spec containers, TidyMounts c := by
  have hselected : ∀ c ∈ selectContainers (wantedContainers spec) containers, TidyMounts c := by
    intro c hc
    rcases mem_selectContainers hc with hc | ⟨name, rfl⟩
    · exact h c hc
    · exact .fresh name
  have hsensor : ∀ c ∈ Keyed.modify (namedContainer sensorContainerName) (withSensor spec)
      (selectContainers (wantedContainers spec) containers), TidyMounts c := by
    intro c hc
    rcases Keyed.mem_modify hc with hc | ⟨d, hd, -, rfl⟩
    · exact hselected c hc
    · exact (hselected d hd).withSensor spec
  intro c hc
  rcases Keyed.mem_modify hc with hc | ⟨d, hd, -, rfl⟩
  · exact hsensor c hc
  · exact (hsensor d hd).withScanner spec

theorem TidyAgent.withNodeAgent {d : DaemonSet} (h : TidyAgent d) (spec : Agent.Spec) :
    TidyAgent (withNodeAgent spec d) := by
  have hpod : agentPodOf (Dataplane.withNodeAgent spec d) = withNodeAgentPod spec (agentPodOf d) :=
    rfl
  rw [withNodeAgentPod_eq] at hpod
  refine ⟨?_, ?_⟩
  · rw [hpod]
    exact tidy_agentVolumes h.volumes
  · rw [hpod]
    exact tidy_agentContainers h.mounts

theorem TidyAgent.not_stray {d : DaemonSet} (h : TidyAgent d) (spec : Agent.Spec) :
    ¬ StrayAgent spec d := by
  rintro ⟨-, hvolumes | ⟨c, hc, hmounts⟩⟩
  · exact h.volumes _ hvolumes
  · rcases mem_selectContainers (List.mem_of_find?_eq_some hc) with hstored | ⟨name, rfl⟩
    · exact h.mounts c hstored _ hmounts
    · exact TidyMounts.fresh name _ hmounts

/-- An object that is not stray for its component, and does not become so. -/
def Component.Tidy (c : Component) : Object → Prop
  | .deployment d => ∀ nodes spec p, c.deploymentPlan? nodes spec = some p → ¬ p.Stray d
  | .daemonSet d => TidyAgent d
  | _ => True

theorem Component.Tidy.not_stray {c : Component} {o : Object} (h : c.Tidy o) (s : Surroundings)
    (spec : Agent.Spec) : ¬ c.Stray s spec o := by
  cases o with
  | deployment d =>
    rintro ⟨p, hp, hstray⟩
    exact h s.nodes spec p hp hstray
  | daemonSet d =>
    rintro ⟨-, hstray⟩
    exact TidyAgent.not_stray h spec hstray
  | _ => exact id

theorem tidy_emptyObject (c : Component) (kubelet : String) : c.Tidy (c.emptyObject kubelet) := by
  have hdeployment : c.Tidy (.deployment {}) := by
    intro nodes spec p hp hstray
    rcases hstray with hvolumes | hmounts
    · exact Keyed.not_stray_nil _ hvolumes
    · exact Keyed.not_stray_nil _ hmounts
  have hagent : TidyAgent {} := ⟨fun _ => Keyed.not_stray_nil _, fun _ hc => (by cases hc)⟩
  cases c <;> first | exact trivial | exact hdeployment | exact hagent

theorem Component.Change.tidy {c : Component} {s : Surroundings} {spec : Agent.Spec}
    {o o₁ : Object} (h : Component.Change s spec c o o₁) (ho : c.Tidy o) : c.Tidy o₁ := by
  cases h with
  | deployment d hp =>
    intro nodes spec' q hq hstray
    obtain ⟨hvolumes, hmounts⟩ := deploymentPlan?_names hp hq
    rw [DeploymentPlan.Stray, ContainerPlan.Stray, hvolumes, hmounts] at hstray
    exact DeploymentPlan.not_stray_apply (deploymentPlan?_proper hp) spec d hstray
  | nodeAgent d => exact TidyAgent.withNodeAgent ho spec
  | _ => exact trivial

end AgentOperator.Dataplane
