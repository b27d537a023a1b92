import AgentOperator.Agent.Spec
import AgentOperator.Keyed
import AgentOperator.Kube.Pod

/-!
AgentOperator.Workload.Container — what the operator writes into a container:
image, probes, resources, ports and security settings.

Each function sets the members it is named for and keeps every other, among
them those the API server has filled in.
-/

namespace AgentOperator.Workload

open Kube (Container ContainerPort Probe PodSpec Quantity ResourceRequirements SecurityContext)

/-! ## Image -/

/-- A registry without slashes at its end. -/
def trimSlashes (registry : String) : String :=
  String.ofList (registry.toList.reverse.dropWhile (· = '/')).reverse

/-- `[registry/]repository:tag`, with the version of the agent for an empty tag
and no registry for an empty one. -/
def fullImage (image : Agent.Image) (version : String) (registry : Option String) : String :=
  let tag := if image.tag = "" then version else image.tag
  match registry.filter (· != "") with
  | some r => trimSlashes r ++ "/" ++ image.repository ++ ":" ++ tag
  | none => image.repository ++ ":" ++ tag

def withImage (image : Agent.Image) (version : String) (registry : Option String)
    (c : Container) : Container :=
  { c with
    image := some (fullImage image version registry)
    imagePullPolicy := some image.pullPolicy }

/-! ## Probes -/

def withTiming (t : Agent.ProbeTiming) (p : Probe) : Probe :=
  { p with
    initialDelaySeconds := some t.initialDelaySeconds
    timeoutSeconds := some t.timeoutSeconds
    periodSeconds := some t.periodSeconds
    successThreshold := some t.successThreshold
    failureThreshold := some t.failureThreshold }

/-- A probe by HTTP request. A handler of another kind gives way; of an HTTP
handler that is there, host and headers stay. -/
def httpProbe (path : String) (probes : Agent.HttpProbes) (p : Probe) : Probe :=
  let p := if p.httpGet.isNone then { p with exec := none, grpc := none, tcpSocket := none } else p
  let get := p.httpGet.getD {}
  withTiming probes.timing
    { p with
      httpGet := some
        { get with path := some path, port := .int probes.port, scheme := some probes.scheme } }

/-- A probe by presence of a file. A handler of another kind gives way. -/
def fileProbe (path : String) (timing : Agent.ProbeTiming) (p : Probe) : Probe :=
  let p := if p.exec.isNone then { p with httpGet := none, grpc := none, tcpSocket := none } else p
  withTiming timing { p with exec := some { command := some ["cat", path] } }

def withHttpProbes (probes : Agent.HttpProbes) (c : Container) : Container :=
  { c with
    readinessProbe := some (httpProbe probes.readinessPath probes (c.readinessProbe.getD {}))
    livenessProbe := some (httpProbe probes.livenessPath probes (c.livenessProbe.getD {})) }

def withFileProbes (probes : Agent.FileProbes) (c : Container) : Container :=
  { c with
    readinessProbe :=
      some (fileProbe probes.readinessPath probes.timing (c.readinessProbe.getD {}))
    livenessProbe :=
      some (fileProbe probes.livenessPath probes.timing (c.livenessProbe.getD {})) }

/-! ## Resources -/

/-- Whether a container has the desired resources, by value. -/
def hasResources (desired : ResourceRequirements) (c : Container) : Bool :=
  let actual := c.resources.getD {}
  Quantity.sameLists actual.limits desired.limits &&
    Quantity.sameLists actual.requests desired.requests

/-- Gives a container the desired resources, unless it has them by value. -/
def withResources (desired : ResourceRequirements) (c : Container) : Container :=
  if hasResources desired c then c
  else
    { c with
      resources := some
        { c.resources.getD {} with
          limits := desired.limits.filter (!·.isEmpty)
          requests := desired.requests.filter (!·.isEmpty) } }

/-! ## Ports -/

def namedPort (name : String) (p : ContainerPort) : Bool := decide (p.name = some name)

/-- Sets the port of a name and keeps other ports. -/
def withPort (name : String) (port : Int32) (c : Container) : Container :=
  { c with
    ports := some <| Keyed.upsert (namedPort name) { name := some name }
      (fun p => { p with containerPort := port, protocol := some "TCP" }) (c.ports.getD []) }

def withoutPorts (c : Container) : Container := { c with ports := none }

/-- Keeps exactly one port, of a given name. -/
def withSinglePort (name : String) (port : Int32) (c : Container) : Container :=
  match c.ports with
  | some [p] => if namedPort name p then withPort name port c else withPort name port (withoutPorts c)
  | _ => withPort name port (withoutPorts c)

/-! ## Security -/

def withSecurity (change : SecurityContext → SecurityContext) (c : Container) : Container :=
  { c with securityContext := some (change (c.securityContext.getD {})) }

/-- No root, no writing to the root file system, no privileges. -/
def restricted : Container → Container :=
  withSecurity fun s =>
    { s with
      allowPrivilegeEscalation := some false
      readOnlyRootFilesystem := some true
      runAsNonRoot := some true
      runAsUser := some 1500
      capabilities := some { add := none, drop := some ["ALL"] } }

/-- Root with every privilege, as agents of the node need. -/
def privileged : Container → Container :=
  withSecurity fun s => { s with privileged := some true, runAsUser := some 0 }

/-- Root only to listen on a low port. -/
def lowPortBinding : Container → Container :=
  withSecurity fun s =>
    { s with
      allowPrivilegeEscalation := some false
      readOnlyRootFilesystem := some true
      runAsUser := some 0
      capabilities := some { add := some ["NET_BIND_SERVICE"], drop := some ["ALL"] } }

/-! ## The containers of a pod -/

/-- Keeps the pod's container if it has exactly one, gives it the name and
changes it. -/
def withSingleContainer (name : String) (change : Container → Container) (pod : PodSpec) :
    PodSpec :=
  let c := match pod.containers with
    | [c] => c
    | _ => {}
  { pod with containers := [change { c with name }] }

def namedContainer (name : String) (c : Container) : Bool := decide (c.name = name)

/-- Changes the first container of a name. -/
def modifyContainer (name : String) (change : Container → Container) (pod : PodSpec) : PodSpec :=
  { pod with containers := Keyed.modify (namedContainer name) change pod.containers }

end AgentOperator.Workload
