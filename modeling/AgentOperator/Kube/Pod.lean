import AgentOperator.Kube.Container
import AgentOperator.Kube.Placement

/-!
AgentOperator.Kube.Pod — pods and the templates workloads make them from.
-/

namespace AgentOperator.Kube

/-! ## Volumes -/

/-- Shows one key of a config map or secret as a file. -/
structure KeyToPath where
  key : String := ""
  mode : Option Int32 := none
  path : String := ""
deriving DecidableEq, Inhabited

def KeyToPath.codec : Codec KeyToPath := Record.codec <|
  KeyToPath.mk <$> .required "key" (·.key) .string
    <*> .optional "mode" (·.mode) .int32
    <*> .required "path" (·.path) .string

structure ConfigMapVolumeSource where
  defaultMode : Option Int32 := none
  items : Option (List KeyToPath) := none
  name : String := ""
  «optional» : Option Bool := none
deriving DecidableEq, Inhabited

def ConfigMapVolumeSource.codec : Codec ConfigMapVolumeSource := Record.codec <|
  ConfigMapVolumeSource.mk <$> .optional "defaultMode" (·.defaultMode) .int32
    <*> .optional "items" (·.items) (.list KeyToPath.codec)
    <*> .required "name" (·.name) .string
    <*> .optional "optional" (·.optional) .bool

structure HostPathVolumeSource where
  path : String := ""
  type : Option String := none
deriving DecidableEq, Inhabited

def HostPathVolumeSource.codec : Codec HostPathVolumeSource := Record.codec <|
  HostPathVolumeSource.mk <$> .required "path" (·.path) .string
    <*> .optional "type" (·.type) .string

structure SecretVolumeSource where
  defaultMode : Option Int32 := none
  items : Option (List KeyToPath) := none
  «optional» : Option Bool := none
  secretName : Option String := none
deriving DecidableEq, Inhabited

def SecretVolumeSource.codec : Codec SecretVolumeSource := Record.codec <|
  SecretVolumeSource.mk <$> .optional "defaultMode" (·.defaultMode) .int32
    <*> .optional "items" (·.items) (.list KeyToPath.codec)
    <*> .optional "optional" (·.optional) .bool
    <*> .optional "secretName" (·.secretName) .string

/-- A volume with at most one source, `rest` holding the sources the operator
does not write. -/
structure Volume where
  name : String := ""
  configMap : Option ConfigMapVolumeSource := none
  hostPath : Option HostPathVolumeSource := none
  secret : Option SecretVolumeSource := none
  rest : Rest Schema.volumeSources := default
deriving DecidableEq, Inhabited

def Volume.codec : Codec Volume := Record.codec <|
  Volume.mk <$> .required "name" (·.name) .string
    <*> .optional "configMap" (·.configMap) ConfigMapVolumeSource.codec
    <*> .optional "hostPath" (·.hostPath) HostPathVolumeSource.codec
    <*> .optional "secret" (·.secret) SecretVolumeSource.codec
    <*> .rest (·.rest)

/-! ## Pods -/

structure PodSpec where
  affinity : Option Affinity := none
  containers : List Container := []
  dnsPolicy : Option String := none
  hostNetwork : Option Bool := none
  hostPID : Option Bool := none
  imagePullSecrets : Option (List LocalObjectReference) := none
  nodeSelector : Option (Dict String) := none
  priorityClassName : Option String := none
  serviceAccountName : Option String := none
  tolerations : Option (List Toleration) := none
  volumes : Option (List Volume) := none
  rest : Rest Schema.podFields := default
deriving DecidableEq, Inhabited

def PodSpec.codec : Codec PodSpec := Record.codec <|
  PodSpec.mk <$> .optional "affinity" (·.affinity) Affinity.codec
    <*> .required "containers" (·.containers) (.list Container.codec)
    <*> .optional "dnsPolicy" (·.dnsPolicy) .string
    <*> .optional "hostNetwork" (·.hostNetwork) .bool
    <*> .optional "hostPID" (·.hostPID) .bool
    <*> .optional "imagePullSecrets" (·.imagePullSecrets) (.list LocalObjectReference.codec)
    <*> .optional "nodeSelector" (·.nodeSelector) (.dict .string)
    <*> .optional "priorityClassName" (·.priorityClassName) .string
    <*> .optional "serviceAccountName" (·.serviceAccountName) .string
    <*> .optional "tolerations" (·.tolerations) (.list Toleration.codec)
    <*> .optional "volumes" (·.volumes) (.list Volume.codec)
    <*> .rest (·.rest)

structure PodTemplateSpec where
  metadata : Option ObjectMeta := none
  spec : Option PodSpec := none
deriving DecidableEq, Inhabited

def PodTemplateSpec.codec : Codec PodTemplateSpec := Record.codec <|
  PodTemplateSpec.mk <$> .optional "metadata" (·.metadata) ObjectMeta.codec
    <*> .optional "spec" (·.spec) PodSpec.codec

end AgentOperator.Kube
