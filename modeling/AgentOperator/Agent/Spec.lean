import AgentOperator.Codec.Described
import AgentOperator.Kube.Container
import AgentOperator.Kube.Placement

/-!
AgentOperator.Agent.Spec — what a user asks of the agent.

Every section may be left out. A section that is left out altogether has the
values of its structure's fields; a member left out of a section that is there
has the default its description gives, which is the same but for the pull
policy of an image.
-/

namespace AgentOperator.Agent

open Kube (Affinity ResourceRequirements Toleration)

/-! ## Images, metrics and probes -/

/-- Where a component's image is pulled from; an empty tag stands for the
version of the agent. -/
structure Image where
  repository : String := ""
  tag : String := ""
  pullPolicy : String := ""
  pullSecrets : List String := []
deriving DecidableEq, Inhabited

def Image.described : Described Image := Section.described <|
  Image.mk <$> .field "repository" (·.repository) .string ""
    <*> .field "tag" (·.tag) .string ""
    <*> .field "pullPolicy" (·.pullPolicy) .string "IfNotPresent"
    <*> .field "pullSecrets" (·.pullSecrets) (.list .string) []

/-- Whether and where a component exports metrics; port zero stands for the
component's own default. -/
structure Prometheus where
  enabled : Bool := false
  port : Int32 := 0
deriving DecidableEq, Inhabited

def Prometheus.described : Described Prometheus := Section.described <|
  Prometheus.mk <$> .field "enabled" (·.enabled) .bool false
    <*> .field "port" (·.port) .int32 0

/-- When a component is probed and how often it has to fail. -/
structure ProbeTiming where
  initialDelaySeconds : Int32 := 3
  timeoutSeconds : Int32 := 1
  periodSeconds : Int32 := 30
  successThreshold : Int32 := 1
  failureThreshold : Int32 := 3
deriving DecidableEq, Inhabited

def ProbeTiming.members : Section ProbeTiming ProbeTiming :=
  ProbeTiming.mk <$> .field "initialDelaySeconds" (·.initialDelaySeconds) .int32 3
    <*> .field "timeoutSeconds" (·.timeoutSeconds) .int32 1
    <*> .field "periodSeconds" (·.periodSeconds) .int32 30
    <*> .field "successThreshold" (·.successThreshold) .int32 1
    <*> .field "failureThreshold" (·.failureThreshold) .int32 3

/-- Probes by HTTP request. -/
structure HttpProbes where
  readinessPath : String := "/ready"
  livenessPath : String := "/alive"
  port : Int32 := 8181
  scheme : String := "HTTP"
  timing : ProbeTiming := {}
deriving DecidableEq, Inhabited

def HttpProbes.described : Described HttpProbes := Section.describedOpenly <|
  HttpProbes.mk <$> .field "readinessPath" (·.readinessPath) .string "/ready"
    <*> .field "livenessPath" (·.livenessPath) .string "/alive"
    <*> .field "port" (·.port) .int32 8181
    <*> .field "scheme" (·.scheme) .string "HTTP"
    <*> .within (·.timing) ProbeTiming.members

/-- Probes by presence of a file. -/
structure FileProbes where
  readinessPath : String := "/tmp/ready"
  livenessPath : String := "/tmp/alive"
  timing : ProbeTiming := {}
deriving DecidableEq, Inhabited

def FileProbes.described : Described FileProbes := Section.describedOpenly <|
  FileProbes.mk <$> .field "readinessPath" (·.readinessPath) .string "/tmp/ready"
    <*> .field "livenessPath" (·.livenessPath) .string "/tmp/alive"
    <*> .within (·.timing) ProbeTiming.members

def resources : Described ResourceRequirements := .plainObject ResourceRequirements.codec

def affinity : Described Affinity := .plainObject Affinity.codec

def toleration : Described Toleration := .plainObject Toleration.codec

/-! ## Gateways -/

/-- The endpoint of the management API. -/
structure ApiGateway where
  scheme : String := "https"
  host : String := ""
  port : Int32 := 443
  adapter : String := "containers"
deriving DecidableEq, Inhabited

def ApiGateway.described : Described ApiGateway := Section.described <|
  ApiGateway.mk <$> .field "scheme" (·.scheme) .string "https"
    <*> .field "host" (·.host) .string ""
    <*> .field "port" (·.port) .int32 443
    <*> .field "adapter" (·.adapter) .string "containers"

/-- An endpoint that components send events to. -/
structure EventsGateway where
  host : String := ""
  port : Int32 := 443
deriving DecidableEq, Inhabited

def EventsGateway.described : Described EventsGateway := Section.described <|
  EventsGateway.mk <$> .field "host" (·.host) .string ""
    <*> .field "port" (·.port) .int32 443

/-- How gateways are trusted: the bundle holds roots beside the system's. -/
structure GatewayTls where
  insecureSkipVerify : Bool := false
  rootCAsBundle : String := ""
deriving DecidableEq, Inhabited

def GatewayTls.described : Described GatewayTls := Section.described <|
  GatewayTls.mk <$> .field "insecureSkipVerify" (·.insecureSkipVerify) .bool false
    <*> .field "rootCAsBundle" (·.rootCAsBundle) .string ""

structure Gateways where
  apiGateway : ApiGateway := {}
  coreEventsGateway : EventsGateway := {}
  hardeningEventsGateway : EventsGateway := {}
  runtimeEventsGateway : EventsGateway := {}
  gatewayTls : GatewayTls := {}
deriving DecidableEq, Inhabited

def Gateways.described : Described Gateways := Section.described <|
  Gateways.mk <$> .field "apiGateway" (·.apiGateway) ApiGateway.described {}
    <*> .field "coreEventsGateway" (·.coreEventsGateway) EventsGateway.described {}
    <*> .field "hardeningEventsGateway" (·.hardeningEventsGateway) EventsGateway.described {}
    <*> .field "runtimeEventsGateway" (·.runtimeEventsGateway) EventsGateway.described {}
    <*> .field "gatewayTLS" (·.gatewayTls) GatewayTls.described {}

/-! ## Components that are always installed -/

structure Monitor where
  labels : Dict String := ∅
  deploymentAnnotations : Dict String := ∅
  podTemplateAnnotations : Dict String := ∅
  env : Dict String := ∅
  image : Image := {}
  resources : ResourceRequirements := {}
  probes : HttpProbes := {}
  nodeSelector : Dict String := ∅
  affinity : Option Affinity := none
deriving DecidableEq, Inhabited

def Monitor.described : Described Monitor := Section.described <|
  Monitor.mk <$> .field "labels" (·.labels) (.dict .string) ∅
    <*> .field "deploymentAnnotations" (·.deploymentAnnotations) (.dict .string) ∅
    <*> .field "podTemplateAnnotations" (·.podTemplateAnnotations) (.dict .string) ∅
    <*> .field "env" (·.env) (.dict .string) ∅
    <*> .field "image" (·.image) Image.described {}
    <*> .field "resources" (·.resources) Agent.resources {}
    <*> .field "probes" (·.probes) HttpProbes.described {}
    <*> .field "nodeSelector" (·.nodeSelector) (.dict .string) ∅
    <*> .field "affinity" (·.affinity) (.nullable Agent.affinity) none

structure Enforcer where
  labels : Dict String := ∅
  deploymentAnnotations : Dict String := ∅
  podTemplateAnnotations : Dict String := ∅
  replicasCount : Int32 := 1
  env : Dict String := ∅
  image : Image := {}
  resources : ResourceRequirements := {}
  probes : HttpProbes := {}
  prometheus : Prometheus := {}
  webhookTimeoutSeconds : Int32 := 5
  /-- What happens to requests the enforcer does not answer: `Ignore` or `Fail`. -/
  failurePolicy : String := "Ignore"
  /-- Whether the mutating webhook is installed. -/
  enableEnforcementFeature : Bool := true
  nodeSelector : Dict String := ∅
  affinity : Option Affinity := none
deriving DecidableEq, Inhabited

def Enforcer.described : Described Enforcer := Section.described <|
  Enforcer.mk <$> .field "labels" (·.labels) (.dict .string) ∅
    <*> .field "deploymentAnnotations" (·.deploymentAnnotations) (.dict .string) ∅
    <*> .field "podTemplateAnnotations" (·.podTemplateAnnotations) (.dict .string) ∅
    <*> .field "replicasCount" (·.replicasCount) .int32 1
    <*> .field "env" (·.env) (.dict .string) ∅
    <*> .field "image" (·.image) Image.described {}
    <*> .field "resources" (·.resources) Agent.resources {}
    <*> .field "probes" (·.probes) HttpProbes.described {}
    <*> .field "prometheus" (·.prometheus) Prometheus.described {}
    <*> .field "webhookTimeoutSeconds" (·.webhookTimeoutSeconds) .int32 5
    <*> .field "failurePolicy" (·.failurePolicy) .string "Ignore"
    <*> .field "enableEnforcementFeature" (·.enableEnforcementFeature) .bool true
    <*> .field "nodeSelector" (·.nodeSelector) (.dict .string) ∅
    <*> .field "affinity" (·.affinity) (.nullable Agent.affinity) none

structure StateReporter where
  labels : Dict String := ∅
  deploymentAnnotations : Dict String := ∅
  podTemplateAnnotations : Dict String := ∅
  env : Dict String := ∅
  image : Image := {}
  resources : ResourceRequirements := {}
  probes : HttpProbes := {}
  nodeSelector : Dict String := ∅
  affinity : Option Affinity := none
deriving DecidableEq, Inhabited

def StateReporter.described : Described StateReporter := Section.described <|
  StateReporter.mk <$> .field "labels" (·.labels) (.dict .string) ∅
    <*> .field "deploymentAnnotations" (·.deploymentAnnotations) (.dict .string) ∅
    <*> .field "podTemplateAnnotations" (·.podTemplateAnnotations) (.dict .string) ∅
    <*> .field "env" (·.env) (.dict .string) ∅
    <*> .field "image" (·.image) Image.described {}
    <*> .field "resources" (·.resources) Agent.resources {}
    <*> .field "probes" (·.probes) HttpProbes.described {}
    <*> .field "nodeSelector" (·.nodeSelector) (.dict .string) ∅
    <*> .field "affinity" (·.affinity) (.nullable Agent.affinity) none

structure Basic where
  monitor : Monitor := {}
  enforcer : Enforcer := {}
  stateReporter : StateReporter := {}
deriving DecidableEq, Inhabited

def Basic.described : Described Basic := Section.described <|
  Basic.mk <$> .field "monitor" (·.monitor) Monitor.described {}
    <*> .field "enforcer" (·.enforcer) Enforcer.described {}
    <*> .field "stateReporter" (·.stateReporter) StateReporter.described {}

/-! ## Runtime protection -/

structure Resolver where
  labels : Dict String := ∅
  deploymentAnnotations : Dict String := ∅
  podTemplateAnnotations : Dict String := ∅
  /-- Follows the number of nodes when it is not given. -/
  replicasCount : Option Int32 := none
  env : Dict String := ∅
  image : Image := {}
  resources : ResourceRequirements := {}
  probes : HttpProbes := {}
  prometheus : Prometheus := {}
  nodeSelector : Dict String := ∅
  affinity : Option Affinity := none
  logLevel : String := "info"
  /-- One replica per this many nodes. -/
  nodesToReplicasRatio : Int32 := 3
deriving DecidableEq, Inhabited

def Resolver.described : Described Resolver := Section.described <|
  Resolver.mk <$> .field "labels" (·.labels) (.dict .string) ∅
    <*> .field "deploymentAnnotations" (·.deploymentAnnotations) (.dict .string) ∅
    <*> .field "podTemplateAnnotations" (·.podTemplateAnnotations) (.dict .string) ∅
    <*> .field "replicasCount" (·.replicasCount) (.nullable .int32) none
    <*> .field "env" (·.env) (.dict .string) ∅
    <*> .field "image" (·.image) Image.described {}
    <*> .field "resources" (·.resources) Agent.resources {}
    <*> .field "probes" (·.probes) HttpProbes.described {}
    <*> .field "prometheus" (·.prometheus) Prometheus.described {}
    <*> .field "nodeSelector" (·.nodeSelector) (.dict .string) ∅
    <*> .field "affinity" (·.affinity) (.nullable Agent.affinity) none
    <*> .field "logLevel" (·.logLevel) .string "info"
    <*> .field "nodesToReplicasRatio" (·.nodesToReplicasRatio) .int32 3

structure Sensor where
  labels : Dict String := ∅
  daemonSetAnnotations : Dict String := ∅
  podTemplateAnnotations : Dict String := ∅
  env : Dict String := ∅
  image : Image := {}
  resources : ResourceRequirements := {}
  probes : FileProbes := {}
  prometheus : Prometheus := {}
  logLevel : String := "info"
deriving DecidableEq, Inhabited

def Sensor.described : Described Sensor := Section.described <|
  Sensor.mk <$> .field "labels" (·.labels) (.dict .string) ∅
    <*> .field "daemonSetAnnotations" (·.daemonSetAnnotations) (.dict .string) ∅
    <*> .field "podTemplateAnnotations" (·.podTemplateAnnotations) (.dict .string) ∅
    <*> .field "env" (·.env) (.dict .string) ∅
    <*> .field "image" (·.image) Image.described {}
    <*> .field "resources" (·.resources) Agent.resources {}
    <*> .field "probes" (·.probes) FileProbes.described {}
    <*> .field "prometheus" (·.prometheus) Prometheus.described {}
    <*> .field "logLevel" (·.logLevel) .string "info"

structure RuntimeProtection where
  enabled : Bool := true
  resolver : Resolver := {}
  sensor : Sensor := {}
  internalGrpcPort : Int32 := 8080
deriving DecidableEq, Inhabited

def RuntimeProtection.described : Described RuntimeProtection := Section.described <|
  RuntimeProtection.mk <$> .field "enabled" (·.enabled) .bool true
    <*> .field "resolver" (·.resolver) Resolver.described {}
    <*> .field "sensor" (·.sensor) Sensor.described {}
    <*> .field "internalGrpcPort" (·.internalGrpcPort) .int32 8080

/-! ## Cluster scanning -/

structure ImageScanningReporter where
  labels : Dict String := ∅
  deploymentAnnotations : Dict String := ∅
  podTemplateAnnotations : Dict String := ∅
  replicasCount : Int32 := 1
  env : Dict String := ∅
  image : Image := {}
  resources : ResourceRequirements := {}
  probes : HttpProbes := {}
  prometheus : Prometheus := {}
  nodeSelector : Dict String := ∅
  affinity : Option Affinity := none
deriving DecidableEq, Inhabited

def ImageScanningReporter.described : Described ImageScanningReporter := Section.described <|
  ImageScanningReporter.mk <$> .field "labels" (·.labels) (.dict .string) ∅
    <*> .field "deploymentAnnotations" (·.deploymentAnnotations) (.dict .string) ∅
    <*> .field "podTemplateAnnotations" (·.podTemplateAnnotations) (.dict .string) ∅
    <*> .field "replicasCount" (·.replicasCount) .int32 1
    <*> .field "env" (·.env) (.dict .string) ∅
    <*> .field "image" (·.image) Image.described {}
    <*> .field "resources" (·.resources) Agent.resources {}
    <*> .field "probes" (·.probes) HttpProbes.described {}
    <*> .field "prometheus" (·.prometheus) Prometheus.described {}
    <*> .field "nodeSelector" (·.nodeSelector) (.dict .string) ∅
    <*> .field "affinity" (·.affinity) (.nullable Agent.affinity) none

/-- Host paths of CRI-O: its image store, `storage.conf` and `crio.conf`. -/
structure CrioPaths where
  storagePath : String := ""
  storageConfigPath : String := ""
  configPath : String := ""
deriving DecidableEq, Inhabited

def CrioPaths.described : Described CrioPaths := Section.described <|
  CrioPaths.mk <$> .field "storagePath" (·.storagePath) .string ""
    <*> .field "storageConfigPath" (·.storageConfigPath) .string ""
    <*> .field "configPath" (·.configPath) .string ""

/-- A container engine whose endpoint is not one of the well-known sockets. -/
structure ContainerEngine where
  endpoint : String := ""
  engineType : String := ""
  crio : CrioPaths := {}
deriving DecidableEq, Inhabited

def ContainerEngine.described : Described ContainerEngine := Section.described <|
  ContainerEngine.mk <$> .field "endpoint" (·.endpoint) .string ""
    <*> .field "engineType" (·.engineType) .string ""
    <*> .field "CRIO" (·.crio) CrioPaths.described {}

/-- Whether the user gave any part of an engine. -/
def ContainerEngine.isConfigured (e : ContainerEngine) : Bool :=
  e.endpoint != "" || e.engineType != ""

/-- Options of the scanner's command line. -/
structure CliFlags where
  skipSecretsDetection : Bool := false
  skipDirsOrFiles : List String := []
  scanBaseLayer : Bool := false
  ignoreBuiltInRegex : Bool := false
deriving DecidableEq, Inhabited

def CliFlags.described : Described CliFlags := Section.described <|
  CliFlags.mk <$> .field "skipSecretsDetection" (·.skipSecretsDetection) .bool false
    <*> .field "skipDirsOrFiles" (·.skipDirsOrFiles) (.list .string) []
    <*> .field "scanBaseLayer" (·.scanBaseLayer) .bool false
    <*> .field "ignoreBuiltInRegex" (·.ignoreBuiltInRegex) .bool false

structure ClusterScanner where
  labels : Dict String := ∅
  daemonSetAnnotations : Dict String := ∅
  podTemplateAnnotations : Dict String := ∅
  env : Dict String := ∅
  image : Image := {}
  resources : ResourceRequirements := {}
  probes : FileProbes := {}
  prometheus : Prometheus := {}
  k8sContainerEngine : ContainerEngine := {}
  cliFlags : CliFlags := {}
deriving DecidableEq, Inhabited

def ClusterScanner.described : Described ClusterScanner := Section.described <|
  ClusterScanner.mk <$> .field "labels" (·.labels) (.dict .string) ∅
    <*> .field "daemonSetAnnotations" (·.daemonSetAnnotations) (.dict .string) ∅
    <*> .field "podTemplateAnnotations" (·.podTemplateAnnotations) (.dict .string) ∅
    <*> .field "env" (·.env) (.dict .string) ∅
    <*> .field "image" (·.image) Image.described {}
    <*> .field "resources" (·.resources) Agent.resources {}
    <*> .field "probes" (·.probes) FileProbes.described {}
    <*> .field "prometheus" (·.prometheus) Prometheus.described {}
    <*> .field "k8sContainerEngine" (·.k8sContainerEngine) ContainerEngine.described {}
    <*> .field "cliFlags" (·.cliFlags) CliFlags.described {}

structure ClusterScanning where
  enabled : Bool := true
  imageScanningReporter : ImageScanningReporter := {}
  clusterScanner : ClusterScanner := {}
deriving DecidableEq, Inhabited

def ClusterScanning.described : Described ClusterScanning := Section.described <|
  ClusterScanning.mk <$> .field "enabled" (·.enabled) .bool true
    <*> .field "imageScanningReporter" (·.imageScanningReporter) ImageScanningReporter.described {}
    <*> .field "clusterScanner" (·.clusterScanner) ClusterScanner.described {}

/-! ## Settings of all components -/

structure Proxy where
  enabled : Bool := false
  httpProxy : Option String := none
  httpsProxy : Option String := none
  noProxy : Option String := none
  /-- Put behind `noProxy` with a comma. -/
  noProxySuffix : Option String := none
deriving DecidableEq, Inhabited

def Proxy.described : Described Proxy := Section.described <|
  Proxy.mk <$> .field "enabled" (·.enabled) .bool false
    <*> .field "httpProxy" (·.httpProxy) (.nullable .string) none
    <*> .field "httpsProxy" (·.httpsProxy) (.nullable .string) none
    <*> .field "noProxy" (·.noProxy) (.nullable .string) none
    <*> .field "noProxySuffix" (·.noProxySuffix) (.nullable .string) none

structure Settings where
  /-- Of every daemon set; none given means every taint is tolerated. -/
  daemonSetsTolerations : List Toleration := []
  createDefaultImagePullSecrets : Bool := true
  imagePullSecrets : List String := []
  defaultImagesRegistry : Option String := none
  proxy : Proxy := {}
deriving DecidableEq, Inhabited

def Settings.described : Described Settings := Section.described <|
  Settings.mk
    <$> .field "daemonSetsTolerations" (·.daemonSetsTolerations) (.list Agent.toleration) []
    <*> .field "createDefaultImagePullSecrets" (·.createDefaultImagePullSecrets) .bool true
    <*> .field "imagePullSecrets" (·.imagePullSecrets) (.list .string) []
    <*> .field "defaultImagesRegistry" (·.defaultImagesRegistry) (.nullable .string) none
    <*> .field "proxy" (·.proxy) Proxy.described {}

structure Components where
  basic : Basic := {}
  runtimeProtection : RuntimeProtection := {}
  clusterScanning : ClusterScanning := {}
  settings : Settings := {}
deriving DecidableEq, Inhabited

def Components.described : Described Components := Section.described <|
  Components.mk <$> .field "basic" (·.basic) Basic.described {}
    <*> .field "runtimeProtection" (·.runtimeProtection) RuntimeProtection.described {}
    <*> .field "clusterScanning" (·.clusterScanning) ClusterScanning.described {}
    <*> .field "settings" (·.settings) Settings.described {}

/-! ## The whole -/

/-- What a user asks of the agent. -/
structure Spec where
  account : String
  clusterName : String
  version : String
  /-- Where every object of the dataplane lives. -/
  «namespace» : String := "cbcontainers-dataplane"
  accessTokenSecretName : String := "cbcontainers-access-token"
  gateways : Gateways := {}
  components : Components := {}
deriving DecidableEq, Inhabited

def Spec.described : Described Spec := Section.described <|
  Spec.mk <$> .mandatory "account" (·.account) .string
    <*> .mandatory "clusterName" (·.clusterName) .string
    <*> .mandatory "version" (·.version) .string
    <*> .field "namespace" (·.namespace) .string "cbcontainers-dataplane"
    <*> .field "accessTokenSecretName" (·.accessTokenSecretName) .string
      "cbcontainers-access-token"
    <*> .field "gateways" (·.gateways) Gateways.described {}
    <*> .field "components" (·.components) Components.described {}

def Spec.codec : Codec Spec := Spec.described.codec

end AgentOperator.Agent
