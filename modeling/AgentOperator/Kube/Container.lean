import AgentOperator.Kube.Parts
import AgentOperator.Kube.Quantity

/-!
AgentOperator.Kube.Container — the containers of a pod: environment, ports,
probes, resources, security settings and mounts.
-/

namespace AgentOperator.Kube

/-! ## Environment -/

/-- A key of a config map. -/
structure ConfigMapKeySelector where
  key : String := ""
  name : String := ""
  «optional» : Option Bool := none
deriving DecidableEq, Inhabited

def ConfigMapKeySelector.codec : Codec ConfigMapKeySelector := Record.codec <|
  ConfigMapKeySelector.mk <$> .required "key" (·.key) .string
    <*> .required "name" (·.name) .string
    <*> .optional "optional" (·.optional) .bool

/-- A key of a secret. -/
structure SecretKeySelector where
  key : String := ""
  name : String := ""
  «optional» : Option Bool := none
deriving DecidableEq, Inhabited

def SecretKeySelector.codec : Codec SecretKeySelector := Record.codec <|
  SecretKeySelector.mk <$> .required "key" (·.key) .string
    <*> .required "name" (·.name) .string
    <*> .optional "optional" (·.optional) .bool

/-- A field of the pod itself. -/
structure ObjectFieldSelector where
  apiVersion : Option String := none
  fieldPath : String := ""
deriving DecidableEq, Inhabited

def ObjectFieldSelector.codec : Codec ObjectFieldSelector := Record.codec <|
  ObjectFieldSelector.mk <$> .optional "apiVersion" (·.apiVersion) .string
    <*> .required "fieldPath" (·.fieldPath) .string

/-- A resource of a container of the pod, in units of the divisor. -/
structure ResourceFieldSelector where
  containerName : Option String := none
  divisor : Option Quantity := none
  resource : String := ""
deriving DecidableEq, Inhabited

def ResourceFieldSelector.codec : Codec ResourceFieldSelector := Record.codec <|
  ResourceFieldSelector.mk <$> .optional "containerName" (·.containerName) .string
    <*> .optional "divisor" (·.divisor) Quantity.codec
    <*> .required "resource" (·.resource) .string

structure EnvVarSource where
  configMapKeyRef : Option ConfigMapKeySelector := none
  fieldRef : Option ObjectFieldSelector := none
  resourceFieldRef : Option ResourceFieldSelector := none
  secretKeyRef : Option SecretKeySelector := none
deriving DecidableEq, Inhabited

def EnvVarSource.codec : Codec EnvVarSource := Record.codec <|
  EnvVarSource.mk <$> .optional "configMapKeyRef" (·.configMapKeyRef) ConfigMapKeySelector.codec
    <*> .optional "fieldRef" (·.fieldRef) ObjectFieldSelector.codec
    <*> .optional "resourceFieldRef" (·.resourceFieldRef) ResourceFieldSelector.codec
    <*> .optional "secretKeyRef" (·.secretKeyRef) SecretKeySelector.codec

structure EnvVar where
  name : String := ""
  value : Option String := none
  valueFrom : Option EnvVarSource := none
deriving DecidableEq, Inhabited

def EnvVar.codec : Codec EnvVar := Record.codec <|
  EnvVar.mk <$> .required "name" (·.name) .string
    <*> .optional "value" (·.value) .string
    <*> .optional "valueFrom" (·.valueFrom) EnvVarSource.codec

/-! ## Ports and probes -/

structure ContainerPort where
  containerPort : Int32 := 0
  hostIP : Option String := none
  hostPort : Option Int32 := none
  name : Option String := none
  protocol : Option String := none
deriving DecidableEq, Inhabited

def ContainerPort.codec : Codec ContainerPort := Record.codec <|
  ContainerPort.mk <$> .required "containerPort" (·.containerPort) .int32
    <*> .optional "hostIP" (·.hostIP) .string
    <*> .optional "hostPort" (·.hostPort) .int32
    <*> .optional "name" (·.name) .string
    <*> .optional "protocol" (·.protocol) .string

structure ExecAction where
  command : Option (List String) := none
deriving DecidableEq, Inhabited

def ExecAction.codec : Codec ExecAction := Record.codec <|
  ExecAction.mk <$> .optional "command" (·.command) (.list .string)

structure HttpGetAction where
  path : Option String := none
  port : IntOrString := default
  scheme : Option String := none
  rest : Rest [Schema.opt "host" .string, Schema.opt "httpHeaders" Schema.httpHeaders] := default
deriving DecidableEq, Inhabited

def HttpGetAction.codec : Codec HttpGetAction := Record.codec <|
  HttpGetAction.mk <$> .optional "path" (·.path) .string
    <*> .required "port" (·.port) .intOrString
    <*> .optional "scheme" (·.scheme) .string
    <*> .rest (·.rest)

/-- How a container's health is asked for, and how often. Of the four handlers
at most one is meant to be set. -/
structure Probe where
  exec : Option ExecAction := none
  grpc : Option (Carried Schema.grpcAction) := none
  httpGet : Option HttpGetAction := none
  tcpSocket : Option (Carried Schema.tcpSocketAction) := none
  failureThreshold : Option Int32 := none
  initialDelaySeconds : Option Int32 := none
  periodSeconds : Option Int32 := none
  successThreshold : Option Int32 := none
  timeoutSeconds : Option Int32 := none
  rest : Rest [Schema.opt "terminationGracePeriodSeconds" .int64] := default
deriving DecidableEq, Inhabited

def Probe.codec : Codec Probe := Record.codec <|
  Probe.mk <$> .optional "exec" (·.exec) ExecAction.codec
    <*> .optional "grpc" (·.grpc) Carried.codec
    <*> .optional "httpGet" (·.httpGet) HttpGetAction.codec
    <*> .optional "tcpSocket" (·.tcpSocket) Carried.codec
    <*> .optional "failureThreshold" (·.failureThreshold) .int32
    <*> .optional "initialDelaySeconds" (·.initialDelaySeconds) .int32
    <*> .optional "periodSeconds" (·.periodSeconds) .int32
    <*> .optional "successThreshold" (·.successThreshold) .int32
    <*> .optional "timeoutSeconds" (·.timeoutSeconds) .int32
    <*> .rest (·.rest)

/-! ## Resources, security and mounts -/

structure ResourceRequirements where
  limits : Option (Dict Quantity) := none
  requests : Option (Dict Quantity) := none
  rest : Rest [Schema.opt "claims" Schema.resourceClaims] := default
deriving DecidableEq, Inhabited

def ResourceRequirements.codec : Codec ResourceRequirements := Record.codec <|
  ResourceRequirements.mk <$> .optional "limits" (·.limits) (.dict Quantity.codec)
    <*> .optional "requests" (·.requests) (.dict Quantity.codec)
    <*> .rest (·.rest)

structure Capabilities where
  add : Option (List String) := none
  drop : Option (List String) := none
deriving DecidableEq, Inhabited

def Capabilities.codec : Codec Capabilities := Record.codec <|
  Capabilities.mk <$> .optional "add" (·.add) (.list .string)
    <*> .optional "drop" (·.drop) (.list .string)

structure SecurityContext where
  allowPrivilegeEscalation : Option Bool := none
  capabilities : Option Capabilities := none
  privileged : Option Bool := none
  readOnlyRootFilesystem : Option Bool := none
  runAsNonRoot : Option Bool := none
  runAsUser : Option Int64 := none
  rest : Rest (Schema.opt "procMount" .string :: Schema.confinement) := default
deriving DecidableEq, Inhabited

def SecurityContext.codec : Codec SecurityContext := Record.codec <|
  SecurityContext.mk <$> .optional "allowPrivilegeEscalation" (·.allowPrivilegeEscalation) .bool
    <*> .optional "capabilities" (·.capabilities) Capabilities.codec
    <*> .optional "privileged" (·.privileged) .bool
    <*> .optional "readOnlyRootFilesystem" (·.readOnlyRootFilesystem) .bool
    <*> .optional "runAsNonRoot" (·.runAsNonRoot) .bool
    <*> .optional "runAsUser" (·.runAsUser) .int64
    <*> .rest (·.rest)

structure VolumeMount where
  mountPath : String := ""
  name : String := ""
  readOnly : Option Bool := none
  rest : Rest Schema.volumeMountFields := default
deriving DecidableEq, Inhabited

def VolumeMount.codec : Codec VolumeMount := Record.codec <|
  VolumeMount.mk <$> .required "mountPath" (·.mountPath) .string
    <*> .required "name" (·.name) .string
    <*> .optional "readOnly" (·.readOnly) .bool
    <*> .rest (·.rest)

/-! ## Containers -/

structure Container where
  name : String := ""
  image : Option String := none
  imagePullPolicy : Option String := none
  command : Option (List String) := none
  env : Option (List EnvVar) := none
  ports : Option (List ContainerPort) := none
  livenessProbe : Option Probe := none
  readinessProbe : Option Probe := none
  resources : Option ResourceRequirements := none
  securityContext : Option SecurityContext := none
  volumeMounts : Option (List VolumeMount) := none
  rest : Rest Schema.containerFields := default
deriving DecidableEq, Inhabited

def Container.codec : Codec Container := Record.codec <|
  Container.mk <$> .required "name" (·.name) .string
    <*> .optional "image" (·.image) .string
    <*> .optional "imagePullPolicy" (·.imagePullPolicy) .string
    <*> .optional "command" (·.command) (.list .string)
    <*> .optional "env" (·.env) (.list EnvVar.codec)
    <*> .optional "ports" (·.ports) (.list ContainerPort.codec)
    <*> .optional "livenessProbe" (·.livenessProbe) Probe.codec
    <*> .optional "readinessProbe" (·.readinessProbe) Probe.codec
    <*> .optional "resources" (·.resources) ResourceRequirements.codec
    <*> .optional "securityContext" (·.securityContext) SecurityContext.codec
    <*> .optional "volumeMounts" (·.volumeMounts) (.list VolumeMount.codec)
    <*> .rest (·.rest)

end AgentOperator.Kube
