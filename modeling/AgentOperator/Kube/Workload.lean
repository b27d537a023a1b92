import AgentOperator.Kube.Pod

/-!
AgentOperator.Kube.Workload — deployments and daemon sets.
-/

namespace AgentOperator.Kube

/-! ## Deployments -/

structure DeploymentSpec where
  replicas : Option Int32 := none
  selector : LabelSelector := {}
  template : PodTemplateSpec := {}
  rest : Rest Schema.deploymentFields := default
deriving DecidableEq, Inhabited

def DeploymentSpec.codec : Codec DeploymentSpec := Record.codec <|
  DeploymentSpec.mk <$> .optional "replicas" (·.replicas) .int32
    <*> .required "selector" (·.selector) LabelSelector.codec
    <*> .required "template" (·.template) PodTemplateSpec.codec
    <*> .rest (·.rest)

structure DeploymentStatus where
  readyReplicas : Option Int32 := none
  rest : Rest Schema.deploymentStatusFields := default
deriving DecidableEq, Inhabited

def DeploymentStatus.codec : Codec DeploymentStatus := Record.codec <|
  DeploymentStatus.mk <$> .optional "readyReplicas" (·.readyReplicas) .int32
    <*> .rest (·.rest)

structure Deployment where
  metadata : ObjectMeta := {}
  spec : Option DeploymentSpec := none
  status : Option DeploymentStatus := none
deriving DecidableEq, Inhabited

def Deployment.codec : Codec Deployment := Record.codec <| typed "apps/v1" "Deployment" <|
  Deployment.mk <$> .required "metadata" (·.metadata) ObjectMeta.codec
    <*> .optional "spec" (·.spec) DeploymentSpec.codec
    <*> .optional "status" (·.status) DeploymentStatus.codec

/-! ## Daemon sets -/

structure DaemonSetSpec where
  selector : LabelSelector := {}
  template : PodTemplateSpec := {}
  rest : Rest Schema.daemonSetFields := default
deriving DecidableEq, Inhabited

def DaemonSetSpec.codec : Codec DaemonSetSpec := Record.codec <|
  DaemonSetSpec.mk <$> .required "selector" (·.selector) LabelSelector.codec
    <*> .required "template" (·.template) PodTemplateSpec.codec
    <*> .rest (·.rest)

structure DaemonSet where
  metadata : ObjectMeta := {}
  spec : Option DaemonSetSpec := none
  status : Option (Carried Schema.daemonSetStatus) := none
deriving DecidableEq, Inhabited

def DaemonSet.codec : Codec DaemonSet := Record.codec <| typed "apps/v1" "DaemonSet" <|
  DaemonSet.mk <$> .required "metadata" (·.metadata) ObjectMeta.codec
    <*> .optional "spec" (·.spec) DaemonSetSpec.codec
    <*> .optional "status" (·.status) Carried.codec

end AgentOperator.Kube
