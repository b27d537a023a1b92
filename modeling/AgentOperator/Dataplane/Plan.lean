import AgentOperator.Kube.Workload
import AgentOperator.Workload.Container
import AgentOperator.Workload.Env
import AgentOperator.Workload.Labels
import AgentOperator.Workload.Placement
import AgentOperator.Workload.Volumes

/-!
AgentOperator.Dataplane.Plan — what a workload of the dataplane should hold,
and how a stored workload is brought to it.
-/

namespace AgentOperator.Dataplane

open Kube (Affinity Container Deployment PodSpec ResourceRequirements)
open Workload

/-! ## Volumes -/

/-- A volume that a pod should have. -/
inductive VolumePlan where
  | secret (name source : String)
  | hostPath (name path : String)
  | rootCAs
deriving DecidableEq

namespace VolumePlan

def name : VolumePlan → String
  | .secret name _ => name
  | .hostPath name _ => name
  | .rootCAs => rootCAsVolume

def apply : VolumePlan → PodSpec → PodSpec
  | .secret name source => withSecretVolume name source
  | .hostPath name path => withHostPathVolume name path
  | .rootCAs => withRootCAsVolume

/-- Gives a pod these volumes; stored ones go away if there are not as many. -/
def applyAll (plans : List VolumePlan) (pod : PodSpec) : PodSpec :=
  plans.foldl (fun pod p => p.apply pod) (resetVolumesUnless plans.length pod)

end VolumePlan

/-- A mount that a container should have. -/
structure MountPlan where
  volume : String
  path : String
  readOnly : Bool
deriving DecidableEq

namespace MountPlan

def rootCAs : MountPlan := ⟨rootCAsVolume, rootCAsDirectory, true⟩

/-- Gives a container these mounts; stored ones go away if there are not as
many. -/
def applyAll (plans : List MountPlan) (c : Container) : Container :=
  plans.foldl (fun c m => withMount m.volume m.path m.readOnly c)
    (resetMountsUnless plans.length c)

end MountPlan

/-! ## Deployments -/

/-- What the container of a deployment should hold. -/
structure ContainerPlan where
  resources : ResourceRequirements
  env : List EnvSource
  image : Agent.Image
  /-- A container without these has probes of its own or none. -/
  probes : Option Agent.HttpProbes
  /-- The security settings. -/
  secure : Container → Container
  /-- The only port; without it ports are left alone. -/
  port : Option (String × Int32)
  mounts : List MountPlan

def ContainerPlan.apply (p : ContainerPlan) (spec : Agent.Spec) (c : Container) : Container :=
  let c := withResources p.resources c
  let c := withEnv (.ofSources p.env) c
  let c := withImage p.image spec.version spec.components.settings.defaultImagesRegistry c
  let c := match p.probes with
    | some probes => withHttpProbes probes c
    | none => c
  let c := p.secure c
  let c := match p.port with
    | some (name, port) => withSinglePort name port c
    | none => c
  MountPlan.applyAll p.mounts c

/-- What a deployment should hold. -/
structure DeploymentPlan where
  /-- The name of the deployment and of its container. -/
  name : String
  replicas : Int32
  labels : Dict String
  annotations : Dict String
  templateAnnotations : Dict String
  account : String
  pullSecrets : List String
  volumes : List VolumePlan
  nodeSelector : Dict String
  affinity : Option Affinity
  container : ContainerPlan

/-- What every pod of the dataplane has: an account, its priority and the
secrets to pull images with. -/
def withPodIdentity (spec : Agent.Spec) (account : String) (pullSecrets : List String)
    (pod : PodSpec) : PodSpec :=
  withImagePullSecrets spec pullSecrets
    { pod with
      serviceAccountName := some account
      priorityClassName := some priorityClassName }

def DeploymentPlan.applyPod (p : DeploymentPlan) (spec : Agent.Spec) (pod : PodSpec) : PodSpec :=
  let pod := withPodIdentity spec p.account p.pullSecrets pod
  let pod := VolumePlan.applyAll p.volumes pod
  let pod := withPlacement p.nodeSelector p.affinity pod
  withSingleContainer p.name (p.container.apply spec) pod

/-- Brings a deployment to the plan. -/
def DeploymentPlan.apply (p : DeploymentPlan) (spec : Agent.Spec) (d : Deployment) : Deployment :=
  let s := d.spec.getD {}
  let w : Labelled := ⟨d.metadata, s.selector, s.template⟩
  let w := w.withLabels (desiredLabels p.name p.labels)
  let w := w.withAnnotations p.annotations p.templateAnnotations
  { d with
    metadata := w.metadata
    spec := some
      { s with
        replicas := some p.replicas
        selector := w.selector
        template :=
          { w.template with spec := some (p.applyPod spec (w.template.spec.getD {})) } } }

/-- Annotations by which metrics are found, and the user's over them. -/
def metricsAnnotations (p : Agent.Prometheus) (user : Dict String) : Dict String :=
  (Dict.ofList
    [(scrapeKey, boolText p.enabled), (metricsPortKey, intText p.port)]).overlay user

end AgentOperator.Dataplane
