import AgentOperator.Kube.Meta

/-!
AgentOperator.Kube.Parts — schemas of the parts of pods that are carried along
by several structures: selectors, probes and handlers, security settings, the
containers of a pod other than its main ones.
-/

namespace AgentOperator.Schema

/-! ## Selectors and references -/

/-- Lists of strings that may be missing. -/
def stringLists (names : List String) : Fields := names.map (opt · (.list .string))

/-- Members that hold truth values. -/
def flags (names : List String) : Fields := names.map (opt · .bool)

def labelSelector : Schema := .object
  [opt "matchExpressions" (.list (.object
      [req "key" .string, req "operator" .string, opt "values" (.list .string)])),
    opt "matchLabels" (.dict .string)]

def localObjectReference : Schema := .object [req "name" .string]

/-- A key of a config map or secret. -/
def keySelector : Schema := .object [req "key" .string, req "name" .string, opt "optional" .bool]

def objectFieldSelector : Schema := .object [opt "apiVersion" .string, req "fieldPath" .string]

def resourceFieldSelector : Schema := .object
  [opt "containerName" .string, opt "divisor" .string, req "resource" .string]

def keyToPath : Schema := .object [req "key" .string, opt "mode" .int32, req "path" .string]

def resourceLists : Fields := [opt "limits" (.dict .string), opt "requests" (.dict .string)]

def resourceClaims : Schema := .list (.object [req "name" .string, opt "request" .string])

def resourceRequirements : Schema := .object (opt "claims" resourceClaims :: resourceLists)

/-! ## Probes and handlers -/

def execAction : Schema := .object [opt "command" (.list .string)]

def httpHeaders : Schema := .list (.object [req "name" .string, req "value" .string])

def httpGetAction : Schema := .object
  [opt "host" .string, opt "httpHeaders" httpHeaders, opt "path" .string,
    req "port" .intOrString, opt "scheme" .string]

def grpcAction : Schema := .object [req "port" .int32, opt "service" .string]

def tcpSocketAction : Schema := .object [opt "host" .string, req "port" .intOrString]

def probe : Schema := .object
  [opt "exec" execAction, opt "failureThreshold" .int32, opt "grpc" grpcAction,
    opt "httpGet" httpGetAction, opt "initialDelaySeconds" .int32, opt "periodSeconds" .int32,
    opt "successThreshold" .int32, opt "tcpSocket" tcpSocketAction,
    opt "terminationGracePeriodSeconds" .int64, opt "timeoutSeconds" .int32]

def lifecycleHandler : Schema := .object
  [opt "exec" execAction, opt "httpGet" httpGetAction, opt "sleep" (.object [req "seconds" .int64]),
    opt "tcpSocket" tcpSocketAction]

def lifecycle : Schema := .object
  [opt "postStart" lifecycleHandler, opt "preStop" lifecycleHandler, opt "stopSignal" .string]

/-! ## Security settings -/

def confinementProfile : Schema := .object [opt "localhostProfile" .string, req "type" .string]

def seLinuxOptions : Schema := .object (strings ["level", "role", "type", "user"])

def windowsOptions : Schema := .object
  (opt "hostProcess" .bool ::
    strings ["gmsaCredentialSpec", "gmsaCredentialSpecName", "runAsUserName"])

/-- The settings that pods and containers have in common and the operator does
not write. -/
def confinement : Fields :=
  [opt "appArmorProfile" confinementProfile, opt "runAsGroup" .int64,
    opt "seLinuxOptions" seLinuxOptions, opt "seccompProfile" confinementProfile,
    opt "windowsOptions" windowsOptions]

def securityContext : Schema := .object <|
  confinement ++
    [opt "allowPrivilegeEscalation" .bool,
      opt "capabilities" (.object (stringLists ["add", "drop"])),
      opt "privileged" .bool, opt "procMount" .string, opt "readOnlyRootFilesystem" .bool,
      opt "runAsNonRoot" .bool, opt "runAsUser" .int64]

def podSecurityContext : Schema := .object <|
  confinement ++
    [opt "fsGroup" .int64, opt "fsGroupChangePolicy" .string, opt "runAsNonRoot" .bool,
      opt "runAsUser" .int64, opt "seLinuxChangePolicy" .string,
      opt "supplementalGroups" (.list .int64), opt "supplementalGroupsPolicy" .string,
      opt "sysctls" (.list (.object [req "name" .string, req "value" .string]))]

/-! ## Containers -/

def envVar : Schema := .object
  [req "name" .string, opt "value" .string,
    opt "valueFrom" (.object
      [opt "configMapKeyRef" keySelector, opt "fieldRef" objectFieldSelector,
        opt "resourceFieldRef" resourceFieldSelector, opt "secretKeyRef" keySelector])]

def containerPort : Schema := .object
  [req "containerPort" .int32, opt "hostIP" .string, opt "hostPort" .int32, opt "name" .string,
    opt "protocol" .string]

def volumeMountFields : Fields :=
  strings ["mountPropagation", "recursiveReadOnly", "subPath", "subPathExpr"]

def volumeMount : Schema := .object <|
  [req "mountPath" .string, req "name" .string, opt "readOnly" .bool] ++ volumeMountFields

/-- A config map or secret whose keys become environment variables. -/
def envFromSource : Schema := .object
  [opt "configMapRef" (.object [req "name" .string, opt "optional" .bool]),
    opt "prefix" .string,
    opt "secretRef" (.object [req "name" .string, opt "optional" .bool])]

/-- The members of a container that the operator does not write. -/
def containerFields : Fields :=
  [opt "args" (.list .string), opt "envFrom" (.list envFromSource), opt "lifecycle" lifecycle,
    opt "resizePolicy" (.list (.object [req "resourceName" .string, req "restartPolicy" .string])),
    opt "restartPolicy" .string, opt "startupProbe" probe, opt "stdin" .bool,
    opt "stdinOnce" .bool, opt "terminationMessagePath" .string,
    opt "terminationMessagePolicy" .string, opt "tty" .bool,
    opt "volumeDevices" (.list (.object [req "devicePath" .string, req "name" .string])),
    opt "workingDir" .string]

/-- Every member of a container. -/
def allContainerFields : Fields :=
  containerFields ++
    [opt "command" (.list .string), opt "env" (.list envVar), opt "image" .string,
      opt "imagePullPolicy" .string, opt "livenessProbe" probe, req "name" .string,
      opt "ports" (.list containerPort), opt "readinessProbe" probe,
      opt "resources" resourceRequirements, opt "securityContext" securityContext,
      opt "volumeMounts" (.list volumeMount)]

def container : Schema := .object allContainerFields

def ephemeralContainer : Schema :=
  .object (opt "targetContainerName" .string :: allContainerFields)

/-! ## Volumes -/

def configMapSelection : Fields :=
  [opt "items" (.list keyToPath), req "name" .string, opt "optional" .bool]

def downwardFiles : Schema := .list (.object
  [opt "fieldRef" objectFieldSelector, opt "mode" .int32, req "path" .string,
    opt "resourceFieldRef" resourceFieldSelector])

def volumeClaim : Schema := .object
  [opt "accessModes" (.list .string),
    opt "dataSource" (.object [opt "apiGroup" .string, req "kind" .string, req "name" .string]),
    opt "dataSourceRef" (.object
      [opt "apiGroup" .string, req "kind" .string, req "name" .string, opt "namespace" .string]),
    opt "resources" (.object resourceLists), opt "selector" labelSelector,
    opt "storageClassName" .string, opt "volumeAttributesClassName" .string,
    opt "volumeMode" .string, opt "volumeName" .string]

def objectMeta : Schema := .object
  [opt "annotations" (.dict .string), opt "creationTimestamp" .time,
    opt "deletionGracePeriodSeconds" .int64, opt "deletionTimestamp" .time,
    opt "finalizers" (.list .string), opt "generateName" .string, opt "generation" .int64,
    opt "labels" (.dict .string), opt "managedFields" (.list managedFieldsEntry),
    opt "name" .string, opt "namespace" .string,
    opt "ownerReferences" (.list (.object
      [req "apiVersion" .string, opt "blockOwnerDeletion" .bool, opt "controller" .bool,
        req "kind" .string, req "name" .string, req "uid" .string])),
    opt "resourceVersion" .string, opt "selfLink" .string, opt "uid" .string]

def projection : Schema := .object
  [opt "clusterTrustBundle" (.object
      [opt "labelSelector" labelSelector, opt "name" .string, opt "optional" .bool,
        req "path" .string, opt "signerName" .string]),
    opt "configMap" (.object configMapSelection),
    opt "downwardAPI" (.object [opt "items" downwardFiles]),
    opt "secret" (.object configMapSelection),
    opt "serviceAccountToken" (.object
      [opt "audience" .string, opt "expirationSeconds" .int64, req "path" .string])]

/-- The sources of a volume that the operator does not write: with the three it
does, every source there is. -/
def volumeSources : Fields :=
  [opt "awsElasticBlockStore" (.object
      [opt "fsType" .string, opt "partition" .int32, opt "readOnly" .bool, req "volumeID" .string]),
    opt "azureDisk" (.object
      [opt "cachingMode" .string, req "diskName" .string, req "diskURI" .string,
        opt "fsType" .string, opt "kind" .string, opt "readOnly" .bool]),
    opt "azureFile" (.object
      [opt "readOnly" .bool, req "secretName" .string, req "shareName" .string]),
    opt "cephfs" (.object
      [req "monitors" (.list .string), opt "path" .string, opt "readOnly" .bool,
        opt "secretFile" .string, opt "secretRef" localObjectReference, opt "user" .string]),
    opt "cinder" (.object
      [opt "fsType" .string, opt "readOnly" .bool, opt "secretRef" localObjectReference,
        req "volumeID" .string]),
    opt "csi" (.object
      [req "driver" .string, opt "fsType" .string,
        opt "nodePublishSecretRef" localObjectReference, opt "readOnly" .bool,
        opt "volumeAttributes" (.dict .string)]),
    opt "downwardAPI" (.object [opt "defaultMode" .int32, opt "items" downwardFiles]),
    opt "emptyDir" (.object (strings ["medium", "sizeLimit"])),
    opt "ephemeral" (.object
      [opt "volumeClaimTemplate" (.object [opt "metadata" objectMeta, req "spec" volumeClaim])]),
    opt "fc" (.object
      [opt "fsType" .string, opt "lun" .int32, opt "readOnly" .bool,
        opt "targetWWNs" (.list .string), opt "wwids" (.list .string)]),
    opt "flexVolume" (.object
      [req "driver" .string, opt "fsType" .string, opt "options" (.dict .string),
        opt "readOnly" .bool, opt "secretRef" localObjectReference]),
    opt "flocker" (.object (strings ["datasetName", "datasetUUID"])),
    opt "gcePersistentDisk" (.object
      [opt "fsType" .string, opt "partition" .int32, req "pdName" .string, opt "readOnly" .bool]),
    opt "gitRepo" (.object
      [opt "directory" .string, req "repository" .string, opt "revision" .string]),
    opt "glusterfs" (.object
      [req "endpoints" .string, req "path" .string, opt "readOnly" .bool]),
    opt "image" (.object (strings ["pullPolicy", "reference"])),
    opt "iscsi" (.object
      [opt "chapAuthDiscovery" .bool, opt "chapAuthSession" .bool, opt "fsType" .string,
        opt "initiatorName" .string, req "iqn" .string, opt "iscsiInterface" .string,
        req "lun" .int32, opt "portals" (.list .string), opt "readOnly" .bool,
        opt "secretRef" localObjectReference, req "targetPortal" .string]),
    opt "nfs" (.object [req "path" .string, opt "readOnly" .bool, req "server" .string]),
    opt "persistentVolumeClaim" (.object [req "claimName" .string, opt "readOnly" .bool]),
    opt "photonPersistentDisk" (.object [opt "fsType" .string, req "pdID" .string]),
    opt "portworxVolume" (.object
      [opt "fsType" .string, opt "readOnly" .bool, req "volumeID" .string]),
    opt "projected" (.object [opt "defaultMode" .int32, opt "sources" (.list projection)]),
    opt "quobyte" (.object
      [opt "group" .string, opt "readOnly" .bool, req "registry" .string, opt "tenant" .string,
        opt "user" .string, req "volume" .string]),
    opt "rbd" (.object
      [opt "fsType" .string, req "image" .string, opt "keyring" .string,
        req "monitors" (.list .string), opt "pool" .string, opt "readOnly" .bool,
        opt "secretRef" localObjectReference, opt "user" .string]),
    opt "scaleIO" (.object
      [opt "fsType" .string, req "gateway" .string, opt "protectionDomain" .string,
        opt "readOnly" .bool, req "secretRef" localObjectReference, opt "sslEnabled" .bool,
        opt "storageMode" .string, opt "storagePool" .string, req "system" .string,
        opt "volumeName" .string]),
    opt "storageos" (.object
      [opt "fsType" .string, opt "readOnly" .bool, opt "secretRef" localObjectReference,
        opt "volumeName" .string, opt "volumeNamespace" .string]),
    opt "vsphereVolume" (.object
      [opt "fsType" .string, opt "storagePolicyID" .string, opt "storagePolicyName" .string,
        req "volumePath" .string])]

/-! ## Pods -/

def podAffinityTerm : Schema := .object
  [opt "labelSelector" labelSelector, opt "matchLabelKeys" (.list .string),
    opt "mismatchLabelKeys" (.list .string), opt "namespaceSelector" labelSelector,
    opt "namespaces" (.list .string), req "topologyKey" .string]

/-- Attraction to or repulsion from other pods. -/
def podAffinity : Schema := .object
  [opt "preferredDuringSchedulingIgnoredDuringExecution" (.list (.object
      [req "podAffinityTerm" podAffinityTerm, req "weight" .int32])),
    opt "requiredDuringSchedulingIgnoredDuringExecution" (.list podAffinityTerm)]

def topologySpreadConstraint : Schema := .object
  [opt "labelSelector" labelSelector, opt "matchLabelKeys" (.list .string), req "maxSkew" .int32,
    opt "minDomains" .int32, opt "nodeAffinityPolicy" .string, opt "nodeTaintsPolicy" .string,
    req "topologyKey" .string, req "whenUnsatisfiable" .string]

/-- The members of a pod's specification that the operator does not write. -/
def podFields : Fields :=
  [opt "activeDeadlineSeconds" .int64, opt "automountServiceAccountToken" .bool,
    opt "dnsConfig" (.object
      [opt "nameservers" (.list .string),
        opt "options" (.list (.object (strings ["name", "value"]))),
        opt "searches" (.list .string)]),
    opt "enableServiceLinks" .bool, opt "ephemeralContainers" (.list ephemeralContainer),
    opt "hostAliases" (.list (.object [opt "hostnames" (.list .string), req "ip" .string])),
    opt "hostIPC" .bool, opt "hostUsers" .bool, opt "hostname" .string,
    opt "initContainers" (.list container), opt "nodeName" .string,
    opt "os" (.object [req "name" .string]), opt "overhead" (.dict .string),
    opt "preemptionPolicy" .string, opt "priority" .int32,
    opt "readinessGates" (.list (.object [req "conditionType" .string])),
    opt "resourceClaims" (.list (.object
      [req "name" .string, opt "resourceClaimName" .string,
        opt "resourceClaimTemplateName" .string])),
    opt "resources" resourceRequirements, opt "restartPolicy" .string,
    opt "runtimeClassName" .string, opt "schedulerName" .string,
    opt "schedulingGates" (.list (.object [req "name" .string])),
    opt "securityContext" podSecurityContext, opt "serviceAccount" .string,
    opt "setHostnameAsFQDN" .bool, opt "shareProcessNamespace" .bool, opt "subdomain" .string,
    opt "terminationGracePeriodSeconds" .int64,
    opt "topologySpreadConstraints" (.list topologySpreadConstraint)]

/-! ## Workloads, services and nodes -/

/-- The members that conditions of workloads have in common. -/
def workloadCondition : Fields :=
  [opt "lastTransitionTime" .time, opt "message" .string, opt "reason" .string,
    req "status" .string, req "type" .string]

def rollout : Schema := .object
  [opt "rollingUpdate" (.object
      [opt "maxSurge" .intOrString, opt "maxUnavailable" .intOrString]),
    opt "type" .string]

def deploymentFields : Fields :=
  [opt "minReadySeconds" .int32, opt "paused" .bool, opt "progressDeadlineSeconds" .int32,
    opt "revisionHistoryLimit" .int32, opt "strategy" rollout]

def deploymentStatusFields : Fields :=
  [opt "availableReplicas" .int32, opt "collisionCount" .int32,
    opt "conditions" (.list (.object (opt "lastUpdateTime" .time :: workloadCondition))),
    opt "observedGeneration" .int64, opt "replicas" .int32, opt "terminatingReplicas" .int32,
    opt "unavailableReplicas" .int32, opt "updatedReplicas" .int32]

def daemonSetFields : Fields :=
  [opt "minReadySeconds" .int32, opt "revisionHistoryLimit" .int32, opt "updateStrategy" rollout]

def daemonSetStatus : Schema := .object
  [opt "collisionCount" .int32, opt "conditions" (.list (.object workloadCondition)),
    req "currentNumberScheduled" .int32, req "desiredNumberScheduled" .int32,
    opt "numberAvailable" .int32, req "numberMisscheduled" .int32, req "numberReady" .int32,
    opt "numberUnavailable" .int32, opt "observedGeneration" .int64,
    opt "updatedNumberScheduled" .int32]

def serviceFields : Fields :=
  [opt "allocateLoadBalancerNodePorts" .bool, opt "clusterIPs" (.list .string),
    opt "externalIPs" (.list .string), opt "externalName" .string,
    opt "externalTrafficPolicy" .string, opt "healthCheckNodePort" .int32,
    opt "internalTrafficPolicy" .string, opt "ipFamilies" (.list .string),
    opt "ipFamilyPolicy" .string, opt "loadBalancerClass" .string, opt "loadBalancerIP" .string,
    opt "loadBalancerSourceRanges" (.list .string), opt "publishNotReadyAddresses" .bool,
    opt "sessionAffinity" .string,
    opt "sessionAffinityConfig" (.object
      [opt "clientIP" (.object [opt "timeoutSeconds" .int32])]),
    opt "trafficDistribution" .string]

def condition : Schema := .object
  [must "lastTransitionTime" .time, req "message" .string, opt "observedGeneration" .int64,
    req "reason" .string, req "status" .string, req "type" .string]

def serviceStatus : Schema := .object
  [opt "conditions" (.list condition),
    opt "loadBalancer" (.object
      [opt "ingress" (.list (.object
        [opt "hostname" .string, opt "ip" .string, opt "ipMode" .string,
          opt "ports" (.list (.object
            [opt "error" .string, req "port" .int32, req "protocol" .string]))]))])]

def nodeConfigSource : Schema := .object
  [opt "configMap" (.object
    [req "kubeletConfigKey" .string, req "name" .string, req "namespace" .string,
      opt "resourceVersion" .string, opt "uid" .string])]

def nodeSpec : Schema := .object
  [opt "configSource" nodeConfigSource, opt "externalID" .string, opt "podCIDR" .string,
    opt "podCIDRs" (.list .string), opt "providerID" .string,
    opt "taints" (.list (.object
      [req "effect" .string, req "key" .string, opt "timeAdded" .time, opt "value" .string])),
    opt "unschedulable" .bool]

/-- What a node reports about itself beside the version of its kubelet. -/
def nodeInfoFields : Fields :=
  ["architecture", "bootID", "containerRuntimeVersion", "kernelVersion", "kubeProxyVersion",
    "machineID", "operatingSystem", "osImage", "systemUUID"].map (req · .string) ++
    [opt "swap" (.object [opt "capacity" .int64])]

/-- The members of a node's status beside what it reports about itself. -/
def nodeStatusFields : Fields :=
  [opt "addresses" (.list (.object [req "address" .string, req "type" .string])),
    opt "allocatable" (.dict .string), opt "capacity" (.dict .string),
    opt "conditions" (.list (.object (opt "lastHeartbeatTime" .time :: workloadCondition))),
    opt "config" (.object
      [opt "active" nodeConfigSource, opt "assigned" nodeConfigSource, opt "error" .string,
        opt "lastKnownGood" nodeConfigSource]),
    opt "daemonEndpoints" (.object [opt "kubeletEndpoint" (.object [req "Port" .int32])]),
    opt "features" (.object [opt "supplementalGroupsPolicy" .bool]),
    opt "images" (.list (.object [opt "names" (.list .string), opt "sizeBytes" .int64])),
    opt "phase" .string,
    opt "runtimeHandlers" (.list (.object
      [opt "features" (.object (flags ["recursiveReadOnlyMounts", "userNamespaces"])),
        opt "name" .string])),
    opt "volumesAttached" (.list (.object [req "devicePath" .string, req "name" .string])),
    opt "volumesInUse" (.list .string)]

end AgentOperator.Schema
