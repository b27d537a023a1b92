import AgentOperator.Agent.Spec
import AgentOperator.Dataplane.Names
import AgentOperator.Kube.Service

/-!
AgentOperator.Dataplane.Service — the services of the dataplane: one named port
that leads to the container port of the same name.
-/

namespace AgentOperator.Dataplane

open Kube (Service ServicePort)

/-- What a service of the dataplane should hold. -/
structure ServicePlan where
  /-- The workload the service leads to. -/
  workload : String
  labels : Dict String
  portName : String
  port : Int32
  /-- Whether clients see every pod of the workload instead of one address. -/
  headless : Bool

/-- Brings a service to the plan. Of a single port that is there, what the plan
does not name stays, and so does an address that was given out. -/
def ServicePlan.apply (p : ServicePlan) (s : Service) : Service :=
  let spec := s.spec.getD {}
  let port : ServicePort := match spec.ports with
    | some [port] => port
    | _ => {}
  { s with
    metadata :=
      { s.metadata with labels := if p.labels.isEmpty then none else some p.labels }
    spec := some
      { spec with
        type := some "ClusterIP"
        clusterIP := if p.headless then some "None" else spec.clusterIP
        selector := some (.ofList [(appNameLabel, p.workload)])
        ports := some
          [{ port with
              name := some p.portName
              port := p.port
              targetPort := some (.string p.portName) }] } }

def enforcerServicePlan (spec : Agent.Spec) : ServicePlan where
  workload := enforcerName
  labels := spec.components.basic.enforcer.labels
  portName := httpsPortName
  port := httpsServicePort
  headless := false

/-- Sensors spread their streams over all resolvers, so the service has no
address of its own. -/
def resolverServicePlan (spec : Agent.Spec) : ServicePlan where
  workload := resolverName
  labels := spec.components.runtimeProtection.resolver.labels
  portName := grpcPortName
  port := spec.components.runtimeProtection.internalGrpcPort
  headless := true

def imageScanningReporterServicePlan (spec : Agent.Spec) : ServicePlan where
  workload := imageScanningReporterName
  labels := spec.components.clusterScanning.imageScanningReporter.labels
  portName := httpsPortName
  port := httpsServicePort
  headless := false

end AgentOperator.Dataplane
