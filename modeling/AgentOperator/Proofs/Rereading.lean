import AgentOperator.Proofs.Fresh
import AgentOperator.Proofs.Pruning

/-!
AgentOperator.Proofs.Rereading — what is lost of an object that was made of nothing.

A component writes no empty list and no empty map, but it does write the empty string
into variables. So if the user's affinity holds nothing empty, just variables lose
their value on the way to a server that keeps nothing empty and back: what is read is
the object itself with its variables reread (`DeploymentPlan.pruned_apply`,
`pruned_withNodeAgent`), and of an object without pods nothing is lost.
-/

namespace AgentOperator

/-! ## Rereading variables -/

theorem map_eq_self_iff {α : Type} {f : α → α} {xs : List α} :
    xs.map f = xs ↔ ∀ x ∈ xs, f x = x := by
  simpa using @List.map_inj_left _ _ xs f id

namespace Kube

theorem EnvVar.pruned_eq_iff {v : EnvVar} : v.pruned = v ↔ v.value ≠ some "" := by
  obtain ⟨name, _ | text, source⟩ := v
  · simp [pruned]
  · by_cases h : text = "" <;> simp [pruned, Option.filter_some, h]

/-- The container, of which just the variables are read back. -/
def Container.reread (c : Container) : Container :=
  { c with env := prunedList EnvVar.pruned c.env }

def PodSpec.reread (p : PodSpec) : PodSpec :=
  { p with containers := p.containers.map Container.reread }

def PodTemplateSpec.reread (t : PodTemplateSpec) : PodTemplateSpec :=
  { t with spec := t.spec.map PodSpec.reread }

def Deployment.reread (d : Deployment) : Deployment :=
  { d with spec := d.spec.map fun s => { s with template := s.template.reread } }

def DaemonSet.reread (d : DaemonSet) : DaemonSet :=
  { d with spec := d.spec.map fun s => { s with template := s.template.reread } }

/-- The object, of which just the variables of its pods are read back. -/
def Object.reread : Object → Object
  | .deployment d => .deployment d.reread
  | .daemonSet d => .daemonSet d.reread
  | o => o

/-- No variable of the pod has the empty string for its value. -/
def PodSpec.NoBlank (p : PodSpec) : Prop :=
  ∀ c ∈ p.containers, ∀ v ∈ c.env.getD [], v.value ≠ some ""

instance (p : PodSpec) : Decidable p.NoBlank :=
  inferInstanceAs (Decidable (∀ c ∈ p.containers, ∀ v ∈ c.env.getD [], v.value ≠ some ""))

theorem Container.reread_eq_iff {c : Container} (h : c.env ≠ some []) :
    c.reread = c ↔ ∀ v ∈ c.env.getD [], v.value ≠ some "" := by
  have hfield : c.reread = c ↔ prunedList EnvVar.pruned c.env = c.env :=
    ⟨congrArg Container.env, fun henv => by rw [reread, henv]⟩
  rw [hfield]
  cases hvars : c.env with
  | none => simp
  | some vars =>
    cases vars with
    | nil => exact absurd hvars h
    | cons v vars => simp [map_eq_self_iff, EnvVar.pruned_eq_iff]

theorem PodSpec.reread_eq_iff {p : PodSpec} (h : ∀ c ∈ p.containers, c.env ≠ some []) :
    p.reread = p ↔ p.NoBlank := by
  have hfield : p.reread = p ↔ p.containers.map Container.reread = p.containers :=
    ⟨congrArg PodSpec.containers, fun hcontainers => by rw [reread, hcontainers]⟩
  rw [hfield, map_eq_self_iff]
  exact forall₂_congr fun c hc => Container.reread_eq_iff (h c hc)

theorem Object.reread_eq_iff {o : Object} : o.reread = o ↔ o.pod.reread = o.pod := by
  cases o with
  | deployment d =>
    obtain ⟨m, _ | ⟨replicas, selector, ⟨tm, _ | pod⟩, rest⟩, status⟩ := d
    · exact ⟨fun _ => rfl, fun _ => rfl⟩
    · exact ⟨fun _ => rfl, fun _ => rfl⟩
    · simp [reread, Deployment.reread, PodTemplateSpec.reread, Object.pod, template?]
  | daemonSet d =>
    obtain ⟨m, _ | ⟨selector, ⟨tm, _ | pod⟩, rest⟩, status⟩ := d
    · exact ⟨fun _ => rfl, fun _ => rfl⟩
    · exact ⟨fun _ => rfl, fun _ => rfl⟩
    · simp [reread, DaemonSet.reread, PodTemplateSpec.reread, Object.pod, template?]
  | _ => exact ⟨fun _ => rfl, fun _ => rfl⟩

end Kube

/-- A part that loses nothing is as it was, and so is what stands for a missing one. -/
theorem getD_of_map_eq {α : Type} {prune : α → α} {o : Option α} {d : α}
    (h : o.map prune = o) (hd : prune d = d) : prune (o.getD d) = o.getD d := by
  cases o with
  | none => exact hd
  | some x => exact Option.some.inj h

end AgentOperator

namespace AgentOperator.Workload

open Kube (Affinity Container EnvVar LocalObjectReference NodeAffinity NodeSelector ObjectMeta
  ResourceRequirements)
open Dataplane

/-! ## Parts of workloads -/

theorem prunedDict_of_notBlank {d : Option (Dict String)} (h : NotBlank d) : prunedDict d = d := by
  cases d with
  | none => rfl
  | some d =>
    have hd : ¬ d.isEmpty := fun hempty => h (congrArg some (Dict.eq_empty_of_isEmpty hempty))
    simp [prunedDict, Option.filter_some, hd]

@[simp] theorem pruned_settledPullSecrets (desired : List LocalObjectReference) :
    prunedList id (settledPullSecrets desired none) = settledPullSecrets desired none := by
  unfold settledPullSecrets
  split
  · rw [prunedList_unlessEmpty, List.map_id]
  · rfl

@[simp] theorem pruned_settledResources (desired : ResourceRequirements) :
    (settledResources desired none).map ResourceRequirements.pruned
      = settledResources desired none := by
  unfold settledResources
  split
  · rfl
  · simp only [Option.map_some, Option.getD_none, ResourceRequirements.pruned, Rest.pruned_default]
    simp only [prunedDict, Option.filter_filter, Bool.and_self]

@[simp] theorem pruned_httpProbe (path : String) (probes : Agent.HttpProbes) :
    (httpProbe path probes {}).pruned = httpProbe path probes {} := by
  simp [httpProbe, withTiming, Kube.Probe.pruned, Kube.HttpGetAction.pruned]

@[simp] theorem pruned_fileProbe (path : String) (timing : Agent.ProbeTiming) :
    (fileProbe path timing {}).pruned = fileProbe path timing {} := by
  simp [fileProbe, withTiming, Kube.Probe.pruned, Kube.ExecAction.pruned]

@[simp] theorem pruned_settledMetricsPort (p : Agent.Prometheus) :
    prunedList id (settledMetricsPort p none) = settledMetricsPort p none := by
  unfold settledMetricsPort
  split <;> rfl

theorem pruned_requireAll {s : NodeSelector} (h : s.pruned = s) :
    (requireAll [onLinux] s).pruned = requireAll [onLinux] s := by
  unfold requireAll
  split
  · exact h
  · rfl

/-- What the operator asks of nodes holds nothing empty, and neither does the rest if the
user's own affinity does not. -/
theorem pruned_settledAffinity {a : Option Affinity} (h : ∀ own ∈ a, own.pruned = own) :
    (settledAffinity [onLinux] a).pruned = settledAffinity [onLinux] a := by
  have hown : (a.getD {}).pruned = a.getD {} := by
    cases a with
    | none => rfl
    | some own => exact h own rfl
  simp only [settledAffinity]
  generalize a.getD {} = own at hown ⊢
  obtain ⟨nodes, near, far⟩ := own
  simp only [Affinity.pruned, Affinity.mk.injEq] at hown ⊢
  obtain ⟨hnodes, hnear, hfar⟩ := hown
  have hkept : (nodes.getD {}).pruned = nodes.getD {} := getD_of_map_eq hnodes rfl
  generalize nodes.getD {} = kept at hkept ⊢
  obtain ⟨preferred, required⟩ := kept
  simp only [NodeAffinity.pruned, NodeAffinity.mk.injEq, Option.map_some, Option.some.injEq]
    at hkept ⊢
  obtain ⟨hpreferred, hrequired⟩ := hkept
  exact ⟨⟨hpreferred, pruned_requireAll (getD_of_map_eq hrequired rfl)⟩, hnear, hfar⟩

end AgentOperator.Workload

namespace AgentOperator.Dataplane

open Kube (AdmissionVersion Capabilities ConfigMapVolumeSource Container DaemonSet DaemonSetSpec
  Deployment DeploymentSpec LabelSelector LabelSelectorRequirement ObjectMeta PodSpec
  PodTemplateSpec RuleWithOperations SecretVolumeSource SecurityContext Service ServiceSpec Volume
  VolumeMount Webhook WebhookConfiguration versionAtLeast)
open Workload

variable {c : Component} {nodes : Option UInt64} {spec : Agent.Spec} {p : DeploymentPlan}

/-! ## Volumes and mounts -/

theorem pruned_settledMounts {plans : List MountPlan} (hne : plans ≠ [])
    (h : (plans.map (·.volume)).Nodup) :
    prunedList VolumeMount.pruned (some (settledMounts plans none))
      = some (settledMounts plans none) := by
  rw [settledMounts_none h]
  refine prunedList_some (by simpa using hne) fun m hm => ?_
  obtain ⟨plan, -, rfl⟩ := List.mem_map.1 hm
  simp [VolumeMount.pruned]

@[simp] theorem VolumePlan.pruned_fresh (p : VolumePlan) :
    Volume.pruned (p.entry.change { name := p.name }) = p.entry.change { name := p.name } := by
  cases p <;> simp [entry, name, Volume.pruned, ConfigMapVolumeSource.pruned,
    SecretVolumeSource.pruned, rootCAsItems]

theorem pruned_settledVolumes {plans : List VolumePlan} (hne : plans ≠ [])
    (h : (plans.map (·.name)).Nodup) :
    prunedList Volume.pruned (some (settledVolumes plans none))
      = some (settledVolumes plans none) := by
  rw [settledVolumes_none h]
  refine prunedList_some (by simpa using hne) fun v hv => ?_
  obtain ⟨plan, -, rfl⟩ := List.mem_map.1 hv
  exact plan.pruned_fresh

/-! ## Containers -/

/-- The change writes security settings that hold nothing empty. -/
def Lasting (secure : Container → Container) : Prop :=
  ∃ change, secure = withSecurity change ∧ (change {}).pruned = change {}

theorem restricted_lasting : Lasting restricted :=
  ⟨_, rfl, by simp [SecurityContext.pruned, Capabilities.pruned]⟩

theorem lowPortBinding_lasting : Lasting lowPortBinding :=
  ⟨_, rfl, by simp [SecurityContext.pruned, Capabilities.pruned]⟩

theorem Component.deploymentPlan?_lasting (hp : c.deploymentPlan? nodes spec = some p) :
    Lasting p.container.secure := by
  cases c <;> simp only [deploymentPlan?, Option.some.injEq, reduceCtorEq] at hp <;> subst hp <;>
    first | exact restricted_lasting | exact lowPortBinding_lasting

theorem ContainerPlan.pruned_apply {p : ContainerPlan} (hp : p.Proper) (hlasting : Lasting p.secure)
    (spec : Agent.Spec) (name : String) :
    (p.apply spec { name }).pruned = (p.apply spec { name }).reread := by
  obtain ⟨change, hsecure, hchange⟩ := hlasting
  have hmounts := pruned_settledMounts hp.mounts_ne_nil hp.mounts_nodup
  rw [apply_eq spec hp.mounts_ne_nil hsecure]
  cases hprobes : p.probes <;> cases hport : p.port <;>
    simp [Container.pruned, Container.reread, settled, hprobes, hport, hmounts, hchange]

theorem pruned_withSensor (spec : Agent.Spec) (name : String) :
    (withSensor spec { name }).pruned = (withSensor spec { name }).reread := by
  rw [withSensor_eq]
  simp [sensorSettled, Container.pruned, Container.reread, SecurityContext.pruned]

theorem pruned_withScanner (spec : Agent.Spec) (name : String) :
    (withScanner spec { name }).pruned = (withScanner spec { name }).reread := by
  have hmounts (scanner : Agent.ClusterScanner) :=
    pruned_settledMounts (scannerMounts_ne_nil scanner) (scannerMounts_nodup scanner)
  rw [withScanner_eq]
  simp [scannerSettled, Container.pruned, Container.reread, SecurityContext.pruned, hmounts]

/-! ## Pods -/

theorem DeploymentPlan.pruned_applyPod (hp : p.Proper) (hlasting : Lasting p.container.secure)
    (haffinity : ∀ a ∈ p.affinity, a.pruned = a) (spec : Agent.Spec) :
    (p.applyPod spec {}).pruned = (p.applyPod spec {}).reread := by
  have hvolumes := pruned_settledVolumes hp.volumes_ne_nil hp.volumes_nodup
  have hcontainer : (p.settledContainer spec []).pruned = (p.settledContainer spec []).reread :=
    ContainerPlan.pruned_apply hp.container hlasting spec p.name
  rw [applyPod_eq hp.volumes_ne_nil]
  simp [PodSpec.pruned, PodSpec.reread, hvolumes, hcontainer, pruned_settledAffinity haffinity]

theorem pruned_withNodeAgentPod (spec : Agent.Spec) :
    (withNodeAgentPod spec {}).pruned = (withNodeAgentPod spec {}).reread := by
  have hvolumes : prunedList Volume.pruned (agentVolumes spec none) = agentVolumes spec none := by
    simp only [agentVolumes]
    split
    · exact pruned_settledVolumes (by simp [scannerVolumes]) (scannerVolumes_nodup _)
    · rfl
  have hcontainers : (agentContainers spec []).map Container.pruned
      = (agentContainers spec []).map Container.reread := by
    rw [agentContainers_nil, containersIf]
    cases spec.components.runtimeProtection.enabled <;>
      cases spec.components.clusterScanning.enabled <;>
      simp [pruned_withSensor, pruned_withScanner]
  have haffinity := pruned_settledAffinity (a := none) (by simp)
  rw [withNodeAgentPod_eq]
  simp [PodSpec.pruned, PodSpec.reread, hvolumes, hcontainers, haffinity, prunedList_unlessEmpty]

/-! ## Objects -/

/-- Labels and annotations lose nothing. -/
theorem pruned_settled (name : String) (user object template : Dict String) :
    let w := Labelled.settled (desiredLabels name user) object template ⟨{}, {}, {}⟩
    w.metadata.pruned = w.metadata ∧ w.selector.pruned = w.selector ∧
      w.template.metadata.map ObjectMeta.pruned = w.template.metadata := by
  have hlabels : prunedDict (some (desiredLabels name user)) = some (desiredLabels name user) :=
    prunedDict_insert user appNameLabel name
  have hannotations (d : Dict String) :
      prunedDict (enforceEntries none d) = enforceEntries none d :=
    prunedDict_of_notBlank (notBlank_none.enforceEntries d)
  simp [Labelled.settled, Labelled.withLabels, Labelled.withAnnotations, Labelled.templateMeta,
    ObjectMeta.pruned, LabelSelector.pruned, hlabels, hannotations]

theorem DeploymentPlan.pruned_apply (hp : p.Proper) (hlasting : Lasting p.container.secure)
    (haffinity : ∀ a ∈ p.affinity, a.pruned = a) (spec : Agent.Spec) :
    (p.apply spec {}).pruned = (p.apply spec {}).reread := by
  obtain ⟨hmeta, hselector, htemplate⟩ :=
    pruned_settled p.name p.labels p.annotations p.templateAnnotations
  have hpod := pruned_applyPod hp hlasting haffinity spec
  have hnone : podOf {} = {} := rfl
  rw [apply_eq]
  simp only [Deployment.pruned, Deployment.reread, DeploymentSpec.pruned, PodTemplateSpec.pruned,
    PodTemplateSpec.reread, hnone, hpod, hmeta, hselector, htemplate, Option.map_some,
    Option.map_none, Option.getD_none, Rest.pruned_default]

theorem pruned_withNodeAgent (spec : Agent.Spec) :
    (withNodeAgent spec {}).pruned = (withNodeAgent spec {}).reread := by
  obtain ⟨hmeta, hselector, htemplate⟩ := pruned_settled nodeAgentName (nodeAgentLabels spec)
    (nodeAgentAnnotations spec) (nodeAgentTemplateAnnotations spec)
  have hpod := pruned_withNodeAgentPod spec
  have hnone : agentPodOf {} = {} := rfl
  rw [withNodeAgent_eq]
  simp only [DaemonSet.pruned, DaemonSet.reread, DaemonSetSpec.pruned, PodTemplateSpec.pruned,
    PodTemplateSpec.reread, hnone, hpod, hmeta, hselector, htemplate, Option.map_some,
    Option.map_none, Option.getD_none, Rest.pruned_default]

theorem ServicePlan.pruned_apply (p : ServicePlan) : (p.apply {}).pruned = p.apply {} := by
  have hselector : prunedDict (some (.ofList [(appNameLabel, p.workload)]))
      = some (.ofList [(appNameLabel, p.workload)]) := prunedDict_ofList (List.cons_ne_nil _ _)
  simp [apply, Service.pruned, ServiceSpec.pruned, ObjectMeta.pruned, hselector]

/-! ## Webhook configurations -/

theorem pruned_settledRule {resources : List String} (hne : resources ≠ []) :
    (settledRule resources []).pruned = settledRule resources [] := by
  have hresources : settledRuleResources resources none = some resources := by
    rw [settledRuleResources]
    refine if_neg fun h => hne ?_
    simpa [Eq.comm] using (Bool.and_eq_true_iff.1 h).1
  have hkept : prunedList id (some resources) = some resources := prunedList_some hne fun _ _ => rfl
  simp [settledRule, hresources, RuleWithOperations.pruned, hkept]

theorem pruned_settledNamespaces {excluded : List String} (hne : excluded ≠ []) :
    (settledNamespaces excluded none).map LabelSelector.pruned
      = settledNamespaces excluded none := by
  have hkept : prunedList id (some excluded) = some excluded := prunedList_some hne fun _ _ => rfl
  have hnone : settledNamespaces excluded none
      = some { matchExpressions := some (reviewedNamespaces excluded) } := rfl
  simp [hnone, reviewedNamespaces, notIn, LabelSelector.pruned, LabelSelectorRequirement.pruned,
    hkept]

theorem pruned_validatingEntry (kubelet : String) (tls : TlsMaterial) (spec : Agent.Spec)
    (name : String) : (validatingEntry kubelet tls spec { name }).pruned
      = validatingEntry kubelet tls spec { name } := by
  have hnamespaces : (settledNamespaces [spec.namespace] none).map LabelSelector.pruned = _ :=
    pruned_settledNamespaces (List.cons_ne_nil _ _)
  have hresources : validatedResources ≠ [] := List.cons_ne_nil _ _
  by_cases h : name = validatingNamespacesName <;>
    simp only [validatingEntry_eq, withEnforcerService, withCaBundle, h, if_true, if_false,
      Webhook.pruned, hnamespaces,
      pruned_settledRule hresources, pruned_settledRule (List.cons_ne_nil "namespaces" []),
      Option.map_none, Option.map_some, LabelSelector.pruned, prunedList_none, prunedDict_none,
      List.map_cons, List.map_nil]

theorem pruned_mutatingEntry (kubelet : String) (tls : TlsMaterial) (spec : Agent.Spec)
    (name : String) : (mutatingEntry kubelet tls spec { name }).pruned
      = mutatingEntry kubelet tls spec { name } := by
  have hnamespaces :
      (settledNamespaces [spec.namespace, systemNamespace] none).map LabelSelector.pruned = _ :=
    pruned_settledNamespaces (List.cons_ne_nil _ _)
  have hresources : mutatedResources ≠ [] := List.cons_ne_nil _ _
  by_cases h : versionAtLeast kubelet 1 14 <;> by_cases h' : versionAtLeast kubelet 1 15 <;>
    simp only [mutatingEntry_eq, withEnforcerService, withCaBundle, h, h', if_true, if_false,
      Bool.false_eq_true, Webhook.pruned, hnamespaces,
      pruned_settledRule hresources, Option.map_none, List.map_cons, List.map_nil]

/-- Entries made anew by a change that leaves nothing empty lose nothing. -/
theorem pruned_keptEntries {change : Webhook → Webhook} {names : List String}
    (hne : names ≠ []) (h : ∀ name, (change { name }).pruned = change { name }) :
    ((keptEntries names []).map change).map Webhook.pruned
      = (keptEntries names []).map change := by
  have hnew : ¬ HasEntries names [] := fun hentries =>
    hne (List.eq_nil_of_length_eq_zero hentries.1.symm)
  rw [keptEntries, if_neg hnew, List.map_map, List.map_map, List.map_map]
  exact List.map_congr_left fun name _ => h name

theorem pruned_withValidatingEntries (kubelet : String) (tls : TlsMaterial) (spec : Agent.Spec)
    (version : AdmissionVersion) :
    (withValidatingEntries kubelet tls spec { version }).pruned
      = withValidatingEntries kubelet tls spec { version } := by
  simp only [withValidatingEntries, withEntries_eq, withConfigurationLabels,
    WebhookConfiguration.pruned, ObjectMeta.pruned, prunedDict_insert, prunedDict_none,
    prunedList_none, Rest.pruned_default,
    pruned_keptEntries (List.cons_ne_nil _ _) (pruned_validatingEntry kubelet tls spec)]

theorem pruned_withMutatingEntries (kubelet : String) (tls : TlsMaterial) (spec : Agent.Spec)
    (version : AdmissionVersion) :
    (withMutatingEntries kubelet tls spec { version }).pruned
      = withMutatingEntries kubelet tls spec { version } := by
  simp only [withMutatingEntries, withEntries_eq, withConfigurationLabels,
    WebhookConfiguration.pruned, ObjectMeta.pruned, prunedDict_insert, prunedDict_none,
    prunedList_none, Rest.pruned_default,
    pruned_keptEntries (List.cons_ne_nil _ _) (pruned_mutatingEntry kubelet tls spec)]

end AgentOperator.Dataplane
