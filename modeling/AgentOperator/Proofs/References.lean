import AgentOperator.Proofs.Fresh
import AgentOperator.Proofs.Rendering

/-!
AgentOperator.Proofs.References — references between stored objects that resolve.

The objects of the dataplane refer to each other by names, keys, ports and paths. After
a pass that succeeded, on whichever reached store, each of these references leads to an
object that is stored and has what is asked of it (`Reached.references_resolve`): what is stored
is what the spec makes of nothing, and what the spec makes of nothing agrees about
them.
-/

namespace AgentOperator.Kube

/-! ## What is referred to -/

/-- The entries of a config map. -/
def Object.configData : Object → Dict String
  | .configMap m => m.data.getD ∅
  | _ => ∅

/-- The entries of a secret. -/
def Object.secretData : Object → Dict Bytes
  | .secret s => s.data.getD ∅
  | _ => ∅

/-- The labels of the pods a service leads to. -/
def Object.selector : Object → Dict String
  | .service s => (s.spec.bind (·.selector)).getD ∅
  | _ => ∅

def Object.servicePorts : Object → List ServicePort
  | .service s => (s.spec.bind (·.ports)).getD []
  | _ => []

/-- Nothing of this is outside of the gist. -/
theorem Object.parts_bare_gist (o : Object) :
    o.bare.gist.configData = o.configData ∧ o.bare.gist.secretData = o.secretData ∧
      o.bare.gist.selector = o.selector ∧ o.bare.gist.servicePorts = o.servicePorts ∧
      o.bare.gist.entries = o.entries := by
  cases o <;> exact ⟨rfl, rfl, rfl, rfl, rfl⟩

theorem Object.pullSecrets_eq (o : Object) : o.pullSecrets = o.pod.imagePullSecrets := by
  cases o with
  | deployment d => rcases d with ⟨m, _ | ⟨replicas, selector, ⟨tm, _ | pod⟩, rest⟩, status⟩ <;> rfl
  | daemonSet d => rcases d with ⟨m, _ | ⟨selector, ⟨tm, _ | pod⟩, rest⟩, status⟩ <;> rfl
  | _ => rfl

end AgentOperator.Kube

namespace AgentOperator.Dataplane

open Kube (Container ContainerPort Object PodSpec Volume)
open Store (Place Table)
open Workload

variable {c d : Component} {kubelet : String} {spec : Agent.Spec} {t : Table} {o : Object}

/-! ## References -/

/-- An object is stored at the place, and it is so. -/
def StoredWith (kubelet : String) (t : Table) (p : Place) (P : Object → Prop) : Prop :=
  ∃ j o, t.get? p = some j ∧ (Object.empty kubelet p.kind).decodeLike j = .ok o ∧ P o

/-- A config map of the namespace is stored and holds the key. -/
def KeyHeld (kubelet : String) (t : Table) (space name key : String) : Prop :=
  StoredWith kubelet t ⟨.configMap, .namespaced space name⟩ fun m =>
    (m.configData.get? key).isSome = true

/-- A container reads in a variable where a file is. The file is an entry of a stored
secret, and a volume of the pod with that secret is mounted there. -/
def FindsFile (kubelet : String) (t : Table) (space : String) (pod : PodSpec) (c : Container)
    (var file : String) : Prop :=
  ∃ v ∈ pod.volumes.getD [], ∃ m ∈ c.volumeMounts.getD [], ∃ source secret,
    m.name = v.name ∧ c.Reads var (m.mountPath ++ "/" ++ file) ∧
      v.secret = some source ∧ source.secretName = some secret ∧
      StoredWith kubelet t ⟨.secret, .namespaced space secret⟩ fun s =>
        (s.secretData.get? file).isSome = true

/-- A container reads in two variables the address and the port of a stored service,
unless the user has other values for them. -/
def Reaches (kubelet : String) (t : Table) (user : Dict String) (c : Container)
    (address port : String) : Prop :=
  ∃ space name number,
    (user.get? address = none → c.Reads address (serviceAddress name space)) ∧
      (user.get? port = none → c.Reads port (intText number)) ∧
      StoredWith kubelet t ⟨.service, .namespaced space name⟩ fun s =>
        ∃ p ∈ s.servicePorts, p.port = number

/-- A service leads to the pods of a workload, each of its ports to a port that a
container of theirs has under its name. -/
structure LeadsTo (service workload : Object) : Prop where
  selector : ∀ k v, service.selector.get? k = some v → workload.podLabels.get? k = some v
  ports : ∀ p ∈ service.servicePorts, ∃ name, p.targetPort = some (.string name) ∧
    ∃ c ∈ workload.pod.containers, ∃ q ∈ c.ports.getD [], q.name = some name

/-- The deployment behind a service. -/
def Component.backend? : Component → Option Component
  | .enforcerService => some .enforcer
  | .resolverService => some .resolver
  | .imageScanningReporterService => some .imageScanningReporter
  | _ => none

/-- The variables of the enforcer that say where its key and its certificate are, and
the entries of its secret that are meant. -/
def certificateFiles : List (String × String) :=
  [("GUARDRAILS_ENFORCER_KEY_FILE_PATH", TlsMaterial.keyKey),
    ("GUARDRAILS_ENFORCER_CERT_FILE_PATH", TlsMaterial.signedCertKey)]

/-- All references between the stored objects of a spec resolve. -/
structure Resolved (kubelet : String) (spec : Agent.Spec) (t : Table) : Prop where
  /-- Variables that are taken from a config map are held by the dataplane's. -/
  env : ∀ (c : Component) o, c.stored kubelet spec t = .ok (some o) →
    ∀ ctr ∈ o.pod.containers, ∀ v ∈ ctr.env.getD [], ∀ ref,
      v.valueFrom.bind (·.configMapKeyRef) = some ref →
        ref.name = configMapName ∧ KeyHeld kubelet t spec.namespace ref.name ref.key
  /-- So are the files that a volume shows of a config map. -/
  volumes : ∀ (c : Component) o, c.stored kubelet spec t = .ok (some o) →
    ∀ v ∈ o.pod.volumes.getD [], ∀ source, v.configMap = some source →
      ∀ item ∈ source.items.getD [], KeyHeld kubelet t spec.namespace source.name item.key
  /-- The deployments and the scanning node agent show the root certificates. -/
  rootCAs : ∀ (c : Component) o, c.stored kubelet spec t = .ok (some o) →
    c.kind = .deployment ∨ c = .nodeAgent ∧ spec.components.clusterScanning.enabled = true →
      ∃ v ∈ o.pod.volumes.getD [], v.name = rootCAsVolume ∧ ∃ source item,
        v.configMap = some source ∧ source.name = configMapName ∧ item ∈ source.items.getD []
  /-- The enforcer finds its key and its certificate. -/
  files : ∀ o, Component.enforcer.stored kubelet spec t = .ok (some o) →
    ∀ ctr ∈ o.pod.containers, ∀ e ∈ certificateFiles,
      spec.components.basic.enforcer.env.get? e.1 = none →
        FindsFile kubelet t spec.namespace o.pod ctr e.1 e.2
  /-- If the default pull secret is made for the pods, they name it. -/
  pullSecret : ∀ (c : Component) o, c.IsWorkload → c.stored kubelet spec t = .ok (some o) →
    spec.components.settings.createDefaultImagePullSecrets = true →
      ∃ ref ∈ o.pod.imagePullSecrets.getD [], ref.name = registrySecretName
  pullSecretStored : StoredWith kubelet t
    ⟨.secret, .namespaced spec.namespace registrySecretName⟩ fun _ => True
  priority : ∀ (c : Component) o, c.IsWorkload → c.stored kubelet spec t = .ok (some o) →
    ∃ name, o.pod.priorityClassName = some name ∧
      StoredWith kubelet t ⟨.priorityClass, .clusterScoped name⟩ fun _ => True
  /-- A service that is stored leads to the deployment behind it. -/
  services : ∀ (c d : Component) o, c.backend? = some d → c.stored kubelet spec t = .ok (some o) →
    o.servicePorts ≠ [] ∧ StoredWith kubelet t (d.place spec) (LeadsTo o)
  /-- Just the enabled agents run on the nodes. -/
  agents : ∀ o, Component.nodeAgent.stored kubelet spec t = .ok (some o) →
    o.pod.containers.map (·.name) = wantedContainers spec
  /-- The runtime sensor reaches the resolver. -/
  resolver : ∀ o, Component.nodeAgent.stored kubelet spec t = .ok (some o) →
    ∀ ctr ∈ o.pod.containers, ctr.name = sensorContainerName →
      Reaches kubelet t spec.components.runtimeProtection.sensor.env ctr
        "RUNTIME_KUBERNETES_SENSOR_RESOLVER_ADDRESS" "RUNTIME_KUBERNETES_SENSOR_GRPC_PORT"
  /-- The cluster scanner reaches the image scanning reporter. -/
  reporter : ∀ o, Component.nodeAgent.stored kubelet spec t = .ok (some o) →
    ∀ ctr ∈ o.pod.containers, ctr.name = scannerContainerName →
      Reaches kubelet t spec.components.clusterScanning.clusterScanner.env ctr
        "CLUSTER_SCANNER_IMAGE_SCANNING_REPORTER_HOST"
        "CLUSTER_SCANNER_IMAGE_SCANNING_REPORTER_PORT"
  /-- Every webhook is answered by a service, on the default port. -/
  webhooks : ∀ c ∈ webhooks, ∀ o, c.stored kubelet spec t = .ok (some o) →
    ∀ w ∈ o.entries, ∃ ref, w.clientConfig.service = some ref ∧ ref.port.getD 443 = 443 ∧
      StoredWith kubelet t ⟨.service, .namespaced ref.namespace ref.name⟩ fun s =>
        ∃ p ∈ s.servicePorts, p.port = 443

/-! ## What rendered objects hold -/

theorem bare_pod (o : Object) : o.bare.pod = o.pod := by
  cases o <;> rfl

theorem bare_podLabels (o : Object) : o.bare.podLabels = o.podLabels := by
  cases o <;> rfl

theorem isSome_toSecretData (tls : TlsMaterial) {key : String}
    (h : key ∈ [TlsMaterial.caCertKey, TlsMaterial.caKeyKey, TlsMaterial.signedCertKey,
      TlsMaterial.keyKey]) : (tls.toSecretData.get? key).isSome = true := by
  refine Dict.isSome_get?_ofList ?_ h
  show [TlsMaterial.caCertKey, TlsMaterial.caKeyKey, TlsMaterial.signedCertKey,
    TlsMaterial.keyKey].Nodup
  decide

theorem exists_mem_settledPullSecrets {desired : List Kube.LocalObjectReference}
    {actual : Option (List Kube.LocalObjectReference)} {d : Kube.LocalObjectReference}
    (h : d ∈ desired) : ∃ a ∈ (settledPullSecrets desired actual).getD [], a.name = d.name := by
  unfold settledPullSecrets
  split
  · rw [Keyed.getD_unlessEmpty]
    exact ⟨d, h, rfl⟩
  · rename_i hsame
    simp only [referencesDiffer, Bool.or_eq_true, not_or, List.any_eq_true, not_exists] at hsame
    have hfound := hsame.2 d
    simpa [h] using hfound

theorem fresh_of_mem_withEntries {names : List String} {cfg : Kube.WebhookConfiguration}
    (hcfg : cfg.webhooks = []) {w : Kube.Webhook} (hw : w ∈ (withEntries names cfg).webhooks) :
    ∃ name, w = { name } := by
  unfold withEntries at hw
  split at hw
  · rw [hcfg] at hw
    cases hw
  · obtain ⟨name, -, rfl⟩ := List.mem_map.1 hw
    exact ⟨name, rfl⟩

namespace Component.Rendered

theorem pod (h : c.Rendered kubelet spec o) :
    ∃ nodes, o.pod.gist = (c.freshPod nodes spec).gist := by
  obtain ⟨⟨s, f, -, hchange, hgist⟩, -⟩ := h
  have hpod := congrArg Object.pod hgist
  rw [Object.pod_gist, Object.pod_gist, bare_pod, hchange.pod rfl] at hpod
  exact ⟨s.nodes, hpod⟩

/-- The pod of a rendered object has the volumes and the priority of the fresh one, and
its containers have variables, ports and mounts of those of the fresh one. -/
theorem parts (h : c.Rendered kubelet spec o) : ∃ nodes,
    o.pod.volumes = (c.freshPod nodes spec).volumes ∧
      o.pod.priorityClassName = (c.freshPod nodes spec).priorityClassName ∧
      o.pod.containers.map Container.gist
        = (c.freshPod nodes spec).containers.map Container.gist := by
  obtain ⟨nodes, hpod⟩ := h.pod
  have hvolumes : o.pod.gist.volumes = _ := congrArg PodSpec.volumes hpod
  have hpriority : o.pod.gist.priorityClassName = _ := congrArg PodSpec.priorityClassName hpod
  have hcontainers : o.pod.gist.containers = _ := congrArg PodSpec.containers hpod
  exact ⟨nodes, hvolumes, hpriority, hcontainers⟩

/-- The container of a deployment has what its plan puts into it. -/
theorem made (h : c.Rendered kubelet spec o) {p : Option UInt64 → DeploymentPlan}
    (hp : ∀ nodes, c.deploymentPlan? nodes spec = some (p nodes)) :
    ∃ nodes pod d, (p nodes).Made pod d ∧ o.pod.volumes = pod.volumes ∧
      o.pod.containers.map Container.gist = [d].map Container.gist := by
  obtain ⟨nodes, hvolumes, -, hcontainers⟩ := h.parts
  rw [Component.freshPod_of_deploymentPlan? (hp nodes)] at hvolumes hcontainers
  obtain ⟨d, hmade⟩ := DeploymentPlan.exists_made (Component.deploymentPlan?_proper (hp nodes)) spec
  rw [hmade.containers] at hcontainers
  exact ⟨nodes, _, d, hmade, hvolumes, hcontainers⟩

theorem podLabels (h : c.Rendered kubelet spec o) {p : Option UInt64 → DeploymentPlan}
    (hp : ∀ nodes, c.deploymentPlan? nodes spec = some (p nodes)) :
    ∃ nodes, o.podLabels = desiredLabels (p nodes).name (p nodes).labels := by
  obtain ⟨⟨s, f, -, hchange, hgist⟩, -⟩ := h
  have hlabels := congrArg Object.podLabels hgist
  rw [Object.podLabels_gist, Object.podLabels_gist, bare_podLabels,
    hchange.podLabels (hp s.nodes)] at hlabels
  exact ⟨s.nodes, hlabels⟩

/-- A container of the node agent has the variables of the fresh one of its name. -/
theorem agentContainer (h : Component.nodeAgent.Rendered kubelet spec o) {ctr : Container}
    (hctr : ctr ∈ o.pod.containers) :
    ∃ d, AgentContainer spec d ∧ ctr.name = d.name ∧ ctr.env = d.env := by
  obtain ⟨nodes, -, -, hcontainers⟩ := h.parts
  obtain ⟨d, hd, hname, henv, -⟩ := Kube.exists_of_map_gist_eq hcontainers hctr
  exact ⟨d, agentContainer_of_mem hd, hname, henv⟩

/-- The containers of the node agent are those of the enabled components. -/
theorem agentNames (h : Component.nodeAgent.Rendered kubelet spec o) :
    o.pod.containers.map (·.name) = wantedContainers spec := by
  obtain ⟨nodes, -, -, hcontainers⟩ := h.parts
  have hfresh : (Component.nodeAgent.freshPod nodes spec).containers = agentContainers spec [] := by
    show (withNodeAgentPod spec {}).containers = _
    rw [withNodeAgentPod_eq]
  have hnames : o.pod.containers.map (·.name) = _ := names_eq_of_gist hcontainers
  rw [hnames, hfresh, agentContainers_nil]
  cases hr : spec.components.runtimeProtection.enabled <;>
    cases hs : spec.components.clusterScanning.enabled <;>
    simp [containersIf, wantedContainers, hr, hs, Keyed.Naming.names, containerNaming,
      withSensor_name, withScanner_name]

theorem configData (h : Component.configMap.Rendered kubelet spec o) :
    o.configData = configMapData spec := by
  obtain ⟨⟨s, f, -, hchange, hgist⟩, -⟩ := h
  rw [← (Object.parts_bare_gist o).1, hgist]
  cases hchange with
  | configMap _ => rfl

theorem secretData (h : Component.enforcerTls.Rendered kubelet spec o) :
    ∃ tls : TlsMaterial, o.secretData = tls.toSecretData := by
  obtain ⟨⟨s, f, -, hchange, hgist⟩, -⟩ := h
  rw [← (Object.parts_bare_gist o).2.1, hgist]
  cases hchange with
  | @enforcerTls _ tls htls => exact ⟨tls, rfl⟩

theorem service {p : ServicePlan} (h : c.Rendered kubelet spec o)
    (hp : c.servicePlan? spec = some p) :
    o.selector = .ofList [(appNameLabel, p.workload)] ∧
      ∃ q, o.servicePorts = [q] ∧ q.port = p.port ∧ q.targetPort = some (.string p.portName) := by
  obtain ⟨⟨s, f, -, hchange, hgist⟩, -⟩ := h
  obtain ⟨-, -, hselector, hports, -⟩ := Object.parts_bare_gist o
  rw [← hselector, ← hports, hgist, hchange.service_eq rfl hp]
  exact ⟨rfl, _, rfl, rfl, rfl⟩

/-- Every entry of a webhook configuration leads to the enforcer of the spec, by the
default port. -/
theorem entries (hc : c ∈ Dataplane.webhooks) (h : c.Rendered kubelet spec o) :
    ∀ w ∈ o.entries, ∃ path, w.clientConfig.service
      = some { name := enforcerName, «namespace» := spec.namespace, path := some path } := by
  obtain ⟨⟨s, f, -, hchange, hgist⟩, -⟩ := h
  have hentries := (Object.parts_bare_gist o).2.2.2.2
  rw [← hentries, hgist]
  intro w hw
  rcases List.mem_pair.1 hc with rfl | rfl
  · cases hchange with
    | @validatingWebhook _ tls htls =>
      obtain ⟨entry, hentry, rfl⟩ := List.mem_map.1 hw
      rw [validatingEntry_clientConfig]
      obtain ⟨name, rfl⟩ := fresh_of_mem_withEntries rfl hentry
      exact ⟨"/validate", rfl⟩
  · cases hchange with
    | @mutatingWebhook _ tls htls =>
      obtain ⟨entry, hentry, rfl⟩ := List.mem_map.1 hw
      rw [mutatingEntry_clientConfig]
      obtain ⟨name, rfl⟩ := fresh_of_mem_withEntries rfl hentry
      exact ⟨"/mutate", rfl⟩

end Component.Rendered

/-! ## Services and deployments -/

/-- A service and the deployment behind it, by their plans. -/
structure Backed (spec : Agent.Spec) (c d : Component) (q : ServicePlan)
    (p : Option UInt64 → DeploymentPlan) : Prop where
  service : c.servicePlan? spec = some q
  deployment : ∀ nodes, d.deploymentPlan? nodes spec = some (p nodes)
  enabled : d.enabled spec = c.enabled spec
  notWebhook : d ∉ Dataplane.webhooks
  name : ∀ nodes, (p nodes).name = q.workload
  port : ∀ nodes, ∃ port, (p nodes).container.port = some (q.portName, port)

theorem Component.exists_backed (spec : Agent.Spec) (h : c.backend? = some d) :
    ∃ q p, Backed spec c d q p := by
  cases c <;> cases h
  · exact ⟨enforcerServicePlan spec, fun _ => enforcerPlan spec,
      rfl, fun _ => rfl, rfl, by decide, fun _ => rfl, fun _ => ⟨_, rfl⟩⟩
  · exact ⟨resolverServicePlan spec, fun nodes => resolverPlan nodes spec,
      rfl, fun _ => rfl, rfl, by decide, fun _ => rfl, fun _ => ⟨_, rfl⟩⟩
  · exact ⟨imageScanningReporterServicePlan spec, fun _ => imageScanningReporterPlan spec,
      rfl, fun _ => rfl, rfl, by decide, fun _ => rfl, fun _ => ⟨_, rfl⟩⟩

theorem Backed.leadsTo {q : ServicePlan} {p : Option UInt64 → DeploymentPlan}
    (h : Backed spec c d q p) {w : Object} (hservice : c.Rendered kubelet spec o)
    (hworkload : d.Rendered kubelet spec w) : LeadsTo o w := by
  obtain ⟨hselector, port, hports, -, htarget⟩ := hservice.service h.service
  refine ⟨fun k v hk => ?_, fun p' hp' => ?_⟩
  · obtain ⟨nodes, hlabels⟩ := hworkload.podLabels h.deployment
    rw [hlabels, desiredLabels, h.name, Dict.get?_insert]
    rw [hselector] at hk
    change ((∅ : Dict String).insert appNameLabel q.workload).get? k = some v at hk
    rw [Dict.get?_insert] at hk
    split at hk
    · rename_i hkey
      rwa [if_pos hkey]
    · cases hk
  · rw [hports, List.mem_singleton] at hp'
    obtain ⟨nodes, pod, ctr, hmade, -, hcontainers⟩ := hworkload.made h.deployment
    obtain ⟨number, hnumber⟩ := h.port nodes
    obtain ⟨ctr', hctr', -, -, hsame, -⟩ :=
      Kube.exists_of_map_gist_eq hcontainers.symm (List.mem_singleton_self ctr)
    rw [hmade.ports _ _ hnumber] at hsame
    refine ⟨q.portName, hp' ▸ htarget, ctr', hctr', ?_⟩
    rw [← hsame]
    exact ⟨_, List.mem_singleton_self _, rfl⟩

/-! ## What was delivered -/

/-- Just what is due is stored, all of it rendered for the spec. -/
structure Delivered (kubelet : String) (spec : Agent.Spec) (t : Table) : Prop where
  rendered : ∀ (c : Component) o, c.stored kubelet spec t = .ok (some o) →
    c.Rendered kubelet spec o
  stored : ∀ c : Component, c.Due spec t → ∃ o, c.stored kubelet spec t = .ok (some o)
  due : ∀ (c : Component) o, c.stored kubelet spec t = .ok (some o) → c.Due spec t

theorem storedWith_of_stored {P : Object → Prop} (ho : c.stored kubelet spec t = .ok (some o))
    (hP : P o) : StoredWith kubelet t (c.place spec) P := by
  obtain ⟨j, hj, hread⟩ := Table.get?_of_read_eq_some ho
  rw [emptyObject_kind] at hj
  exact ⟨j, o, hj, hread, hP⟩

/-- A component that is not a webhook is due as soon as the spec asks for it. -/
theorem due_of_enabled (henabled : c.enabled spec = true) (hc : c ∉ webhooks) : c.Due spec t :=
  ⟨henabled, fun h => absurd h hc⟩

namespace Delivered

theorem storedWith (h : Delivered kubelet spec t) {P : Object → Prop} (hdue : c.Due spec t)
    (hP : ∀ o, c.Rendered kubelet spec o → P o) : StoredWith kubelet t (c.place spec) P := by
  obtain ⟨o, ho⟩ := h.stored c hdue
  exact storedWith_of_stored ho (hP o (h.rendered c o ho))

theorem keyHeld (h : Delivered kubelet spec t) {key : String} (hkey : key ∈ configKeys) :
    KeyHeld kubelet t spec.namespace configMapName key := by
  have hdue : Component.configMap.Due spec t := due_of_enabled rfl (by decide)
  refine h.storedWith hdue fun o ho => ?_
  rw [ho.configData]
  refine Dict.isSome_get?_ofList ?_ hkey
  show configKeys.Nodup
  decide

theorem env (h : Delivered kubelet spec t) (ho : c.stored kubelet spec t = .ok (some o))
    {ctr : Container} (hctr : ctr ∈ o.pod.containers) {v : Kube.EnvVar} (hv : v ∈ ctr.env.getD [])
    {ref : Kube.ConfigMapKeySelector} (href : v.valueFrom.bind (·.configMapKeyRef) = some ref) :
    ref.name = configMapName ∧ KeyHeld kubelet t spec.namespace ref.name ref.key := by
  obtain ⟨nodes, -, -, hcontainers⟩ := (h.rendered c o ho).parts
  obtain ⟨d, hd, -, henv, -⟩ := Kube.exists_of_map_gist_eq hcontainers hctr
  rw [henv] at hv
  obtain ⟨hname, hkey⟩ := Component.configured_of_mem_freshPod hd hv ref href
  rw [hname]
  exact ⟨rfl, h.keyHeld hkey⟩

theorem volumes (h : Delivered kubelet spec t) (ho : c.stored kubelet spec t = .ok (some o))
    {v : Volume} (hv : v ∈ o.pod.volumes.getD []) {source : Kube.ConfigMapVolumeSource}
    (hsource : v.configMap = some source) {item : Kube.KeyToPath}
    (hitem : item ∈ source.items.getD []) :
    KeyHeld kubelet t spec.namespace source.name item.key := by
  obtain ⟨nodes, hvolumes, -, -⟩ := (h.rendered c o ho).parts
  rw [hvolumes] at hv
  have hshows := Component.showsRootCAs_of_mem_freshPod hv (by rw [hsource]; nofun)
  obtain ⟨source', hsource', hname, hitems⟩ := hshows.source
  cases hsource.symm.trans hsource'
  rw [hitems, Option.getD_some, List.mem_singleton] at hitem
  rw [hname, hitem]
  exact h.keyHeld (by decide)

theorem rootCAs (h : Delivered kubelet spec t) (ho : c.stored kubelet spec t = .ok (some o))
    (hc : c.kind = .deployment ∨ c = .nodeAgent ∧ spec.components.clusterScanning.enabled = true) :
    ∃ v ∈ o.pod.volumes.getD [], v.name = rootCAsVolume ∧ ∃ source item,
      v.configMap = some source ∧ source.name = configMapName ∧ item ∈ source.items.getD [] := by
  obtain ⟨nodes, hvolumes, -, -⟩ := (h.rendered c o ho).parts
  rw [hvolumes]
  have hshown : ∃ v ∈ (c.freshPod nodes spec).volumes.getD [], ShowsRootCAs v :=
    Component.exists_showsRootCAs hc
  obtain ⟨v, hv, hshows⟩ := hshown
  obtain ⟨source, hsource, hname, hitems⟩ := hshows.source
  refine ⟨v, hv, hshows.name, source, { key := rootCAsFile, path := rootCAsFile }, hsource,
    hname, ?_⟩
  rw [hitems]
  exact List.mem_singleton_self _

theorem findsFile (h : Delivered kubelet spec t)
    (ho : Component.enforcer.stored kubelet spec t = .ok (some o)) {ctr : Container}
    (hctr : ctr ∈ o.pod.containers) {e : String × String} (he : e ∈ certificateFiles)
    (huser : spec.components.basic.enforcer.env.get? e.1 = none) :
    FindsFile kubelet t spec.namespace o.pod ctr e.1 e.2 := by
  obtain ⟨nodes, pod, d, hmade, hvolumes, hcontainers⟩ :=
    (h.rendered _ o ho).made (p := fun _ => enforcerPlan spec) fun _ => rfl
  obtain ⟨d', hd', -, henv, -, hmounts⟩ := Kube.exists_of_map_gist_eq hcontainers hctr
  cases List.mem_singleton.1 hd'
  have hsecret : StoredWith kubelet t (Component.enforcerTls.place spec) fun s =>
      (s.secretData.get? e.2).isSome = true := by
    have hdue : Component.enforcerTls.Due spec t := due_of_enabled rfl (by decide)
    refine h.storedWith hdue fun o ho => ?_
    obtain ⟨tls, htls⟩ := ho.secretData
    rw [htls]
    refine isSome_toSecretData tls ?_
    rcases List.mem_pair.1 he with rfl | rfl <;> decide
  have hreads : ctr.Reads e.1 (tlsDirectory ++ "/" ++ e.2) := by
    rw [hmade.env] at henv
    rcases List.mem_pair.1 he with rfl | rfl
    · refine reads_of_getElem? (i := 2) henv rfl ?_
      simp [enforcerPlan, silent_user huser, silent_proxy]
    · refine reads_of_getElem? (i := 3) henv rfl ?_
      simp [enforcerPlan, silent_user huser, silent_proxy]
  rw [hmade.mounts] at hmounts
  rw [hmade.volumes] at hvolumes
  unfold FindsFile
  rw [hvolumes, hmounts]
  exact ⟨_, List.mem_cons_self .., _, List.mem_cons_self .., _, enforcerTlsName, rfl, hreads, rfl,
    rfl, hsecret⟩

theorem pullSecret (h : Delivered kubelet spec t) (hc : c.IsWorkload)
    (ho : c.stored kubelet spec t = .ok (some o))
    (hcreate : spec.components.settings.createDefaultImagePullSecrets = true) :
    ∃ ref ∈ o.pod.imagePullSecrets.getD [], ref.name = registrySecretName := by
  obtain ⟨nodes, actual, hpull⟩ := (h.rendered c o ho).pullSecrets
  rw [← Object.pullSecrets_eq, hpull]
  have hmem : Kube.LocalObjectReference.mk registrySecretName ∈ c.pullSecrets nodes spec := by
    rcases hc.cases nodes spec with ⟨p, hp⟩ | rfl
    · simp [Component.pullSecrets, hp, imagePullSecrets, hcreate]
    · simp [Component.pullSecrets, Component.deploymentPlan?, imagePullSecrets, hcreate]
  exact exists_mem_settledPullSecrets hmem

theorem priority (h : Delivered kubelet spec t) (hc : c.IsWorkload)
    (ho : c.stored kubelet spec t = .ok (some o)) :
    ∃ name, o.pod.priorityClassName = some name ∧
      StoredWith kubelet t ⟨.priorityClass, .clusterScoped name⟩ fun _ => True := by
  obtain ⟨nodes, -, hpriority, -⟩ := (h.rendered c o ho).parts
  rw [hpriority, hc.freshPod_priorityClassName]
  have hdue : Component.priorityClass.Due spec t := due_of_enabled rfl (by decide)
  exact ⟨priorityClassName, rfl, h.storedWith hdue fun _ _ => trivial⟩

/-- A service that is stored leads to the deployment behind it. -/
theorem services (h : Delivered kubelet spec t) (hcd : c.backend? = some d)
    (ho : c.stored kubelet spec t = .ok (some o)) :
    o.servicePorts ≠ [] ∧ StoredWith kubelet t (d.place spec) (LeadsTo o) := by
  obtain ⟨q, p, hb⟩ := Component.exists_backed spec hcd
  have hservice := h.rendered c o ho
  obtain ⟨-, port, hports, -⟩ := hservice.service hb.service
  have hdue : d.Due spec t := due_of_enabled (hb.enabled.trans (h.due c o ho).1) hb.notWebhook
  refine ⟨by simp [hports], h.storedWith hdue fun w hw => hb.leadsTo hservice hw⟩

theorem storedService (h : Delivered kubelet spec t) {q : ServicePlan} (hdue : c.Due spec t)
    (hq : c.servicePlan? spec = some q) :
    StoredWith kubelet t (c.place spec) fun s => ∃ p ∈ s.servicePorts, p.port = q.port := by
  refine h.storedWith hdue fun s hs => ?_
  obtain ⟨-, port, hports, hnumber, -⟩ := hs.service hq
  rw [hports]
  exact ⟨port, List.mem_singleton_self port, hnumber⟩

theorem resolver (h : Delivered kubelet spec t)
    (ho : Component.nodeAgent.stored kubelet spec t = .ok (some o)) {ctr : Container}
    (hctr : ctr ∈ o.pod.containers) (hname : ctr.name = sensorContainerName) :
    Reaches kubelet t spec.components.runtimeProtection.sensor.env ctr
      "RUNTIME_KUBERNETES_SENSOR_RESOLVER_ADDRESS" "RUNTIME_KUBERNETES_SENSOR_GRPC_PORT" := by
  obtain ⟨d, hd, hsame, henv⟩ := (h.rendered _ o ho).agentContainer hctr
  cases hd with
  | sensor hruntime =>
    rw [withSensor_env] at henv
    have hdue : Component.resolverService.Due spec t := due_of_enabled hruntime (by decide)
    refine ⟨spec.namespace, resolverName, spec.components.runtimeProtection.internalGrpcPort,
      fun huser => ?_, fun huser => ?_, h.storedService hdue rfl⟩
    · refine reads_of_getElem? (i := 1) henv rfl ?_
      simp [sensorEnv, silent_user huser, silent_proxy]
    · refine reads_of_getElem? (i := 0) henv rfl ?_
      simp [sensorEnv, silent_user huser, silent_proxy]
  | scanner hscanning =>
    rw [hname, withScanner_name] at hsame
    exact absurd hsame (by decide)

theorem reporter (h : Delivered kubelet spec t)
    (ho : Component.nodeAgent.stored kubelet spec t = .ok (some o)) {ctr : Container}
    (hctr : ctr ∈ o.pod.containers) (hname : ctr.name = scannerContainerName) :
    Reaches kubelet t spec.components.clusterScanning.clusterScanner.env ctr
      "CLUSTER_SCANNER_IMAGE_SCANNING_REPORTER_HOST"
      "CLUSTER_SCANNER_IMAGE_SCANNING_REPORTER_PORT" := by
  obtain ⟨d, hd, hsame, henv⟩ := (h.rendered _ o ho).agentContainer hctr
  cases hd with
  | sensor hruntime =>
    rw [hname, withSensor_name] at hsame
    exact absurd hsame (by decide)
  | scanner hscanning =>
    rw [withScanner_env] at henv
    have hdue : Component.imageScanningReporterService.Due spec t :=
      due_of_enabled hscanning (by decide)
    refine ⟨spec.namespace, imageScanningReporterName, imageScanningReporterContainerPort,
      fun huser => ?_, fun huser => ?_, h.storedService hdue rfl⟩
    · refine reads_of_getElem? (i := 3) henv rfl ?_
      simp [scannerEnv, or_imp, forall_and, silent_user huser, silent_proxy]
      exact fun _ hs => silent_of_mem_engineEnv hs (by decide)
    · refine reads_of_getElem? (i := 4) henv rfl ?_
      simp [scannerEnv, or_imp, forall_and, silent_user huser, silent_proxy]
      exact fun _ hs => silent_of_mem_engineEnv hs (by decide)

theorem webhooks (h : Delivered kubelet spec t) (hc : c ∈ Dataplane.webhooks)
    (ho : c.stored kubelet spec t = .ok (some o)) {w : Kube.Webhook} (hw : w ∈ o.entries) :
    ∃ ref, w.clientConfig.service = some ref ∧ ref.port.getD 443 = 443 ∧
      StoredWith kubelet t ⟨.service, .namespaced ref.namespace ref.name⟩ fun s =>
        ∃ p ∈ s.servicePorts, p.port = 443 := by
  obtain ⟨path, href⟩ := (h.rendered c o ho).entries hc w hw
  have hdue : Component.enforcerService.Due spec t := due_of_enabled rfl (by decide)
  exact ⟨_, href, rfl, h.storedService hdue rfl⟩

/-- Where what is due was delivered, every reference resolves. -/
theorem resolved (h : Delivered kubelet spec t) : Resolved kubelet spec t where
  env _ _ ho _ hctr _ hv _ href := h.env ho hctr hv href
  volumes _ _ ho _ hv _ hsource _ hitem := h.volumes ho hv hsource hitem
  rootCAs _ _ ho hc := h.rootCAs ho hc
  files _ ho _ hctr _ he huser := h.findsFile ho hctr he huser
  pullSecret _ _ hc ho hcreate := h.pullSecret hc ho hcreate
  pullSecretStored :=
    have hdue : Component.registrySecret.Due spec t := due_of_enabled rfl (by decide)
    h.storedWith hdue fun _ _ => trivial
  priority _ _ hc ho := h.priority hc ho
  services _ _ _ hcd ho := h.services hcd ho
  agents _ ho := (h.rendered _ _ ho).agentNames
  resolver _ ho _ hctr hname := h.resolver ho hctr hname
  reporter _ ho _ hctr hname := h.reporter ho hctr hname
  webhooks _ hc _ ho _ hw := h.webhooks hc ho hw

end Delivered

/-! ## After a pass -/

variable {x : Setting} {m m' : Memory} {w' : Scene} {changed : Bool}
  {registry : RegistryCredentials} {setOwner : Option OwnerSetter}

/-- A pass that succeeds on a reached store delivers. -/
theorem Reached.delivered (h : Reached m t) (hopts : ApplyOptions.Proper { setOwner })
    (hrun : Pass.runIn x (applyDesiredState spec registry setOwner) m ⟨t, []⟩
      = ((.ok changed, m'), w')) :
    ∃ kubelet, m'.kubelet = some kubelet ∧ Delivered kubelet spec w'.store := by
  obtain ⟨kubelet, hknown, -, hbrought⟩ := h.brought hopts hrun
  obtain ⟨hdue, -⟩ := applyDesiredState_inventory (w := ⟨t, []⟩) hopts h.entailed.placed hrun
  have hstored (c : Component) (hc : c.Due spec w'.store) :
      ∃ o, c.stored kubelet spec w'.store = .ok (some o) ∧ c.Rendered kubelet spec o := by
    have hsome := (hdue c).2 hc
    rcases hbrought c with habsent | hfound
    · rw [habsent] at hsome
      cases hsome
    · exact hfound
  refine ⟨kubelet, hknown, ?_, fun c hc => ?_, fun c o ho => (hdue c).1 (isSome_of_stored ho)⟩
  · intro c o ho
    obtain ⟨o', ho', hrendered⟩ := hstored c ((hdue c).1 (isSome_of_stored ho))
    cases ho.symm.trans ho'
    exact hrendered
  · obtain ⟨o, ho, -⟩ := hstored c hc
    exact ⟨o, ho⟩

/-- **References resolve.** After a pass that succeeded, on whichever store passes and
cleanups had led to, every reference between the objects that are stored for its spec
leads to a stored object with what is asked of it. -/
theorem Reached.references_resolve (h : Reached m t) (hopts : ApplyOptions.Proper { setOwner })
    (hrun : Pass.runIn x (applyDesiredState spec registry setOwner) m ⟨t, []⟩
      = ((.ok changed, m'), w')) :
    ∃ kubelet, m'.kubelet = some kubelet ∧ Resolved kubelet spec w'.store := by
  obtain ⟨kubelet, hknown, hdelivered⟩ := h.delivered hopts hrun
  exact ⟨kubelet, hknown, hdelivered.resolved⟩

set_option maxRecDepth 10000 in
/-- A first pass, over an empty store. -/
theorem references_resolve_after_first_pass :
    ∃ changed m' w', Pass.runIn .steady (applyDesiredState default ⟨"", ∅⟩ none) {} ⟨{}, []⟩
        = ((.ok changed, m'), w') ∧
      ∃ kubelet, m'.kubelet = some kubelet ∧ Resolved kubelet default w'.store := by
  have hok : (Pass.runIn .steady (applyDesiredState default ⟨"", ∅⟩ none) {} ⟨{}, []⟩).1.1.toBool
      = true := by
    decide +kernel
  rcases hrun : Pass.runIn .steady (applyDesiredState default ⟨"", ∅⟩ none) {} ⟨{}, []⟩
    with ⟨⟨_ | changed, m'⟩, w'⟩
  · rw [hrun] at hok
    cases hok
  · exact ⟨changed, m', w', rfl,
      Reached.references_resolve (.empty {}) (fun _ h => by cases h) hrun⟩

end AgentOperator.Dataplane
