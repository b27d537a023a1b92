import AgentOperator.Agent.Spec
import AgentOperator.Error

/-!
AgentOperator.Agent.Defaults — values the operator fills in for what the user
left open, and the specs it refuses.

What counts as left open: an empty string, port zero, a missing resource
entry, an empty list of tolerations.
-/

namespace AgentOperator.Agent

open Kube (Quantity ResourceRequirements Toleration)

/-! ## Defaults of single values -/

def stringOr (value fallback : String) : String := if value = "" then fallback else value

def Image.withDefaults (i : Image) (repository : String) : Image :=
  { i with
    repository := stringOr i.repository repository
    pullPolicy := stringOr i.pullPolicy "IfNotPresent" }

def Prometheus.withDefaults (p : Prometheus) (port : Int32) : Prometheus :=
  { p with port := if p.port = 0 then port else p.port }

/-- Amounts of memory and of processor time. -/
structure Amounts where
  memory : String
  cpu : String

/-- Adds an entry unless there is one. -/
def addMissing (list : Dict Quantity) (name text : String) : Dict Quantity :=
  if list.contains name then list else list.insert name ⟨text⟩

def Amounts.fill (a : Amounts) (list : Option (Dict Quantity)) : Option (Dict Quantity) :=
  some (addMissing (addMissing (list.getD ∅) "memory" a.memory) "cpu" a.cpu)

def resourcesWithDefaults (r : ResourceRequirements) (requests limits : Amounts) :
    ResourceRequirements :=
  { r with requests := requests.fill r.requests, limits := limits.fill r.limits }

/-! ## Defaults of components -/

def smallRequest : Amounts := ⟨"64Mi", "30m"⟩

def serverRequest : Amounts := ⟨"64Mi", "200m"⟩

def smallLimit : Amounts := ⟨"256Mi", "200m"⟩

def serverLimit : Amounts := ⟨"1024Mi", "900m"⟩

def sensorLimit : Amounts := ⟨"1024Mi", "500m"⟩

def scannerLimit : Amounts := ⟨"4Gi", "2000m"⟩

def metricsPort : Int32 := 7071

def scannerMetricsPort : Int32 := 7072

def crioDefaults : CrioPaths where
  storagePath := "/var/lib/containers"
  storageConfigPath := "/etc/containers/storage.conf"
  configPath := "/etc/crio/crio.conf"

def Monitor.withDefaults (m : Monitor) : Monitor :=
  { m with
    image := m.image.withDefaults "cbartifactory/monitor"
    resources := resourcesWithDefaults m.resources smallRequest smallLimit }

def Enforcer.withDefaults (e : Enforcer) : Enforcer :=
  { e with
    image := e.image.withDefaults "cbartifactory/guardrails-enforcer"
    resources := resourcesWithDefaults e.resources smallRequest smallLimit
    prometheus := e.prometheus.withDefaults metricsPort }

def StateReporter.withDefaults (r : StateReporter) : StateReporter :=
  { r with
    image := r.image.withDefaults "cbartifactory/guardrails-state-reporter"
    resources := resourcesWithDefaults r.resources smallRequest smallLimit }

def Resolver.withDefaults (r : Resolver) : Resolver :=
  { r with
    image := r.image.withDefaults "cbartifactory/runtime-kubernetes-resolver"
    resources := resourcesWithDefaults r.resources serverRequest serverLimit
    prometheus := r.prometheus.withDefaults metricsPort }

def Sensor.withDefaults (s : Sensor) : Sensor :=
  { s with
    image := s.image.withDefaults "cbartifactory/runtime-kubernetes-sensor"
    resources := resourcesWithDefaults s.resources smallRequest sensorLimit
    prometheus := s.prometheus.withDefaults metricsPort }

def ImageScanningReporter.withDefaults (r : ImageScanningReporter) : ImageScanningReporter :=
  { r with
    image := r.image.withDefaults "cbartifactory/image-scanning-reporter"
    resources := resourcesWithDefaults r.resources serverRequest serverLimit
    prometheus := r.prometheus.withDefaults metricsPort }

def CrioPaths.withDefaults (c : CrioPaths) : CrioPaths where
  storagePath := stringOr c.storagePath crioDefaults.storagePath
  storageConfigPath := stringOr c.storageConfigPath crioDefaults.storageConfigPath
  configPath := stringOr c.configPath crioDefaults.configPath

def ClusterScanner.withDefaults (s : ClusterScanner) : ClusterScanner :=
  { s with
    image := s.image.withDefaults "cbartifactory/cluster-scanner"
    resources := resourcesWithDefaults s.resources smallRequest scannerLimit
    prometheus := s.prometheus.withDefaults scannerMetricsPort
    k8sContainerEngine :=
      { s.k8sContainerEngine with crio := s.k8sContainerEngine.crio.withDefaults } }

/-- Without tolerations daemon sets tolerate every taint. -/
def Settings.withDefaults (s : Settings) : Settings :=
  { s with
    daemonSetsTolerations :=
      if s.daemonSetsTolerations.isEmpty then [{ operator := some "Exists" }]
      else s.daemonSetsTolerations }

def Components.withDefaults (c : Components) : Components where
  basic :=
    { monitor := c.basic.monitor.withDefaults
      enforcer := c.basic.enforcer.withDefaults
      stateReporter := c.basic.stateReporter.withDefaults }
  runtimeProtection :=
    { c.runtimeProtection with
      resolver := c.runtimeProtection.resolver.withDefaults
      sensor := c.runtimeProtection.sensor.withDefaults }
  clusterScanning :=
    { c.clusterScanning with
      imageScanningReporter := c.clusterScanning.imageScanningReporter.withDefaults
      clusterScanner := c.clusterScanning.clusterScanner.withDefaults }
  settings := c.settings.withDefaults

/-- The spec with everything filled in that was left open. -/
def Spec.withDefaults (s : Spec) : Spec := { s with components := s.components.withDefaults }

/-! ## Validation -/

/-- Why a spec cannot be run. -/
inductive SpecProblem where
  | noAccount
  | noClusterName
  | badFailurePolicy (policy : String)
  | noEngineEndpoint
  | noEngineType
  | badEngineType (engine : String)
deriving DecidableEq

def SpecProblem.message : SpecProblem → String
  | .noAccount => "account must be provided"
  | .noClusterName => "clusterName must be provided"
  | .badFailurePolicy policy => "invalid enforcer failure policy " ++ policy
  | .noEngineEndpoint =>
    "k8s container engine endpoint must be provided if configuring k8s container engine option"
  | .noEngineType =>
    "k8s container engine type must be provided if configuring k8s container engine option"
  | .badEngineType engine => "invalid engine type " ++ engine ++ " provided"

def engineTypes : List String := ["containerd", "docker-daemon", "cri-o"]

/-- The first reason to refuse an engine that is configured. -/
def ContainerEngine.problem? (e : ContainerEngine) : Option SpecProblem :=
  if !e.isConfigured then none
  else if e.endpoint = "" then some .noEngineEndpoint
  else if e.engineType = "" then some .noEngineType
  else if !engineTypes.contains e.engineType then some (.badEngineType e.engineType)
  else none

/-- The first reason to refuse a spec. -/
def Spec.problem? (s : Spec) : Option SpecProblem :=
  let policy := s.components.basic.enforcer.failurePolicy
  if s.account = "" then some .noAccount
  else if s.clusterName = "" then some .noClusterName
  else if policy ≠ "Ignore" ∧ policy ≠ "Fail" then some (.badFailurePolicy policy)
  else s.components.clusterScanning.clusterScanner.k8sContainerEngine.problem?

/-- Refuses specs that the dataplane cannot run with. -/
def Spec.validate (s : Spec) : Except Error Unit :=
  match s.problem? with
  | none => .ok ()
  | some p => .error (.invalidArgument p.message)

end AgentOperator.Agent
