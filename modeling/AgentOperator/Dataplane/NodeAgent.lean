import AgentOperator.Agent.Defaults
import AgentOperator.Dataplane.Plan

/-!
AgentOperator.Dataplane.NodeAgent — the daemon set that runs on every node,
with the runtime sensor, the cluster scanner, or both.
-/

namespace AgentOperator.Dataplane

open Kube (Container DaemonSet PodSpec)
open Workload

/-! ## Labels and annotations -/

/-- The entries of a component, if it is enabled. -/
def entriesIf (enabled : Bool) (d : Dict String) : Dict String := if enabled then d else ∅

/-- The user's labels of every enabled component, those of the scanner last. -/
def nodeAgentLabels (spec : Agent.Spec) : Dict String :=
  let runtime := spec.components.runtimeProtection
  let scanning := spec.components.clusterScanning
  (entriesIf runtime.enabled runtime.sensor.labels).overlay
    (entriesIf scanning.enabled scanning.clusterScanner.labels)

def nodeAgentAnnotations (spec : Agent.Spec) : Dict String :=
  let runtime := spec.components.runtimeProtection
  let scanning := spec.components.clusterScanning
  (entriesIf runtime.enabled runtime.sensor.daemonSetAnnotations).overlay
    (entriesIf scanning.enabled scanning.clusterScanner.daemonSetAnnotations)

/-- Whether an enabled component exports metrics. -/
def nodeAgentScraped (spec : Agent.Spec) : Bool :=
  let runtime := spec.components.runtimeProtection
  let scanning := spec.components.clusterScanning
  (runtime.enabled && runtime.sensor.prometheus.enabled) ||
    (scanning.enabled && scanning.clusterScanner.prometheus.enabled)

/-- The annotations of the pods: the user's, and the mark for scraping if some
enabled component exports metrics. -/
def nodeAgentTemplateAnnotations (spec : Agent.Spec) : Dict String :=
  let runtime := spec.components.runtimeProtection
  let scanning := spec.components.clusterScanning
  let user := (entriesIf runtime.enabled runtime.sensor.podTemplateAnnotations).overlay
    (entriesIf scanning.enabled scanning.clusterScanner.podTemplateAnnotations)
  if nodeAgentScraped spec then user.insert scrapeKey "true" else user

/-! ## Sockets and volumes -/

/-- The volumes for the sockets of well-known container engines, with their
paths. -/
def knownSockets : List (String × String) :=
  [("containerd", "/var/run/containerd/containerd.sock"),
    ("microk8s-containerd", "/var/snap/microk8s/common/run/containerd.sock"),
    ("k3s-containerd", "/run/k3s/containerd/containerd.sock"),
    ("docker", "/var/run/dockershim.sock"),
    ("crio", "/var/run/crio/crio.sock"),
    ("dockersock", "/var/run/docker.sock")]

/-- The sockets the scanner reads running containers from, the one the user
gave last. -/
def engineSockets (scanner : Agent.ClusterScanner) : List (String × String) :=
  let endpoint := scanner.k8sContainerEngine.endpoint
  knownSockets ++
    if endpoint = "" then [] else [("configured-container-runtime-endpoint", endpoint)]

def crioStorageVolume : String := "crio-storage"

def crioStorageConfigVolume : String := "crio-storage-config"

def crioConfigVolume : String := "crio-config"

def scannerVolumes (scanner : Agent.ClusterScanner) : List VolumePlan :=
  let crio := scanner.k8sContainerEngine.crio
  (engineSockets scanner).map (fun (name, path) => .hostPath name path) ++
    [.hostPath crioStorageVolume crio.storagePath,
      .hostPath crioStorageConfigVolume crio.storageConfigPath,
      .hostPath crioConfigVolume crio.configPath,
      .rootCAs]

/-- The scanner shares file locks with CRI-O in the image store, so that mount
alone is writable. -/
def scannerMounts (scanner : Agent.ClusterScanner) : List MountPlan :=
  .rootCAs :: (engineSockets scanner).map (fun (name, path) => ⟨name, path, true⟩) ++
    [⟨crioStorageVolume, Agent.crioDefaults.storagePath, false⟩,
      ⟨crioStorageConfigVolume, Agent.crioDefaults.storageConfigPath, true⟩,
      ⟨crioConfigVolume, Agent.crioDefaults.configPath, true⟩]

/-- Only the scanner has volumes. -/
def withNodeAgentVolumes (spec : Agent.Spec) (pod : PodSpec) : PodSpec :=
  let scanning := spec.components.clusterScanning
  if scanning.enabled then VolumePlan.applyAll (scannerVolumes scanning.clusterScanner) pod
  else { pod with volumes := none }

/-! ## Containers -/

/-- The port for metrics if they are exported, and no port otherwise. -/
def withMetricsPort (p : Agent.Prometheus) (c : Container) : Container :=
  if p.enabled then withSinglePort metricsPortName p.port c else withoutPorts c

/-- Brings the container of the runtime sensor to the spec. -/
def withSensor (spec : Agent.Spec) (c : Container) : Container :=
  let runtime := spec.components.runtimeProtection
  let sensor := runtime.sensor
  let env := Env.ofSources
    [.value "RUNTIME_KUBERNETES_SENSOR_GRPC_PORT" (intText runtime.internalGrpcPort),
      .value "RUNTIME_KUBERNETES_SENSOR_RESOLVER_ADDRESS"
        (serviceAddress resolverName spec.namespace),
      .value "RUNTIME_KUBERNETES_SENSOR_RESOLVER_CONNECTION_TIMEOUT_SECONDS" "60",
      .value "RUNTIME_KUBERNETES_SENSOR_LIVENESS_PATH" sensor.probes.livenessPath,
      .value "RUNTIME_KUBERNETES_SENSOR_READINESS_PATH" sensor.probes.readinessPath,
      .value "RUNTIME_KUBERNETES_SENSOR_LOG_LEVEL" sensor.logLevel,
      .proxy spec.components.settings.proxy,
      .user sensor.env]
  let c := withResources sensor.resources c
  let c := { c with command := some ["/run_sensor.sh"] }
  let c := withImage sensor.image spec.version spec.components.settings.defaultImagesRegistry c
  let c := withFileProbes sensor.probes c
  let c := withMetricsPort sensor.prometheus c
  privileged (withEnv env c)

/-- The engine the user gave, if it is given in full. -/
def engineEnv (engine : Agent.ContainerEngine) : List EnvSource :=
  if engine.endpoint ≠ "" ∧ engine.engineType ≠ "" then
    [.value "CLUSTER_SCANNER_ENDPOINT" engine.endpoint,
      .value "CLUSTER_SCANNER_CONTAINER_RUNTIME" engine.engineType]
  else []

def scannerEnv (spec : Agent.Spec) : List EnvSource :=
  let scanner := spec.components.clusterScanning.clusterScanner
  let flags := scanner.cliFlags
  [.common spec.accessTokenSecretName,
    .eventsGateway spec.gateways.hardeningEventsGateway,
    .value "CLUSTER_SCANNER_PROMETHEUS_PORT" (intText scanner.prometheus.port),
    .value "CLUSTER_SCANNER_IMAGE_SCANNING_REPORTER_HOST"
      (serviceAddress imageScanningReporterName spec.namespace),
    .value "CLUSTER_SCANNER_IMAGE_SCANNING_REPORTER_PORT"
      (intText imageScanningReporterContainerPort),
    .value "CLUSTER_SCANNER_IMAGE_SCANNING_REPORTER_SCHEME" httpsPortName,
    .value "CLUSTER_SCANNER_LIVENESS_PATH" scanner.probes.livenessPath,
    .value "CLUSTER_SCANNER_READINESS_PATH" scanner.probes.readinessPath,
    .value "CLUSTER_SCANNER_CLI_FLAGS_SKIP_SECRETS_DETECTION"
      (boolText flags.skipSecretsDetection),
    .value "CLUSTER_SCANNER_CLI_FLAGS_SKIP_DIRS_OR_FILES"
      (String.intercalate "," flags.skipDirsOrFiles),
    .value "CLUSTER_SCANNER_CLI_FLAGS_SCAN_BASE_LAYER" (boolText flags.scanBaseLayer),
    .value "CLUSTER_SCANNER_CLI_FLAGS_IGNORE_BUILT_IN_REGEX" (boolText flags.ignoreBuiltInRegex)] ++
    engineEnv scanner.k8sContainerEngine ++
    [.resource "CLUSTER_SCANNER_LIMITS_MEMORY" scannerContainerName "limits.memory",
      .resource "CLUSTER_SCANNER_REQUESTS_MEMORY" scannerContainerName "requests.memory",
      .field "CLUSTER_SCANNER_NODE_NAME" "spec.nodeName" "v1",
      .gatewayTls,
      .proxy spec.components.settings.proxy,
      .user scanner.env]

/-- Brings the container of the cluster scanner to the spec. -/
def withScanner (spec : Agent.Spec) (c : Container) : Container :=
  let scanner := spec.components.clusterScanning.clusterScanner
  let c := withResources scanner.resources c
  let c := withImage scanner.image spec.version spec.components.settings.defaultImagesRegistry c
  let c := withFileProbes scanner.probes c
  let c := withMetricsPort scanner.prometheus c
  let c := withEnv (.ofSources (scannerEnv spec)) c
  privileged (MountPlan.applyAll (scannerMounts scanner) c)

/-- The containers of the enabled components, the sensor first. -/
def wantedContainers (spec : Agent.Spec) : List String :=
  (if spec.components.runtimeProtection.enabled then [sensorContainerName] else []) ++
    if spec.components.clusterScanning.enabled then [scannerContainerName] else []

/-- Takes the first container of a name out of a list; the last one moves into
its place. -/
def takeContainer? (name : String) (stored : List Container) :
    Option (Container × List Container) := do
  let i ← stored.findIdx? (namedContainer name)
  let c ← stored[i]?
  let last ← stored.getLast?
  return (c, (stored.set i last).dropLast)

/-- The containers of these names in order, each carried over if it is stored
and fresh otherwise. -/
def carryOver : List String → List Container → List Container
  | [], _ => []
  | name :: names, stored =>
    match takeContainer? name stored with
    | some (c, rest) => c :: carryOver names rest
    | none => { name } :: carryOver names stored

/-- Leaves a list that holds just the wanted containers as it is, and carries
the wanted ones over from any other. -/
def selectContainers (wanted : List String) (stored : List Container) : List Container :=
  if stored.length = wanted.length ∧ wanted.all fun name => stored.any (namedContainer name) then
    stored
  else carryOver wanted stored

/-! ## The daemon set -/

def withNodeAgentPod (spec : Agent.Spec) (pod : PodSpec) : PodSpec :=
  let runtime := spec.components.runtimeProtection
  let pod := withPodIdentity spec nodeAgentAccount runtime.sensor.image.pullSecrets pod
  let pod :=
    { pod with
      dnsPolicy := some (if runtime.enabled then "ClusterFirstWithHostNet" else "ClusterFirst")
      hostNetwork := if runtime.enabled then some true else none
      hostPID := if runtime.enabled then some true else none }
  let pod := withNodeAgentVolumes spec pod
  let pod :=
    { pod with
      tolerations := Keyed.unlessEmpty spec.components.settings.daemonSetsTolerations
      containers := selectContainers (wantedContainers spec) pod.containers }
  let pod := modifyContainer sensorContainerName (withSensor spec) pod
  let pod := modifyContainer scannerContainerName (withScanner spec) pod
  withNodeTerms [onLinux] pod

/-- Brings the daemon set to the spec. -/
def withNodeAgent (spec : Agent.Spec) (d : DaemonSet) : DaemonSet :=
  let s := d.spec.getD {}
  let w : Labelled := ⟨d.metadata, s.selector, s.template⟩
  let w := w.withLabels (desiredLabels nodeAgentName (nodeAgentLabels spec))
  let w := w.withAnnotations (nodeAgentAnnotations spec) (nodeAgentTemplateAnnotations spec)
  { d with
    metadata := w.metadata
    spec := some
      { s with
        selector := w.selector
        template :=
          { w.template with spec := some (withNodeAgentPod spec (w.template.spec.getD {})) } } }

end AgentOperator.Dataplane
