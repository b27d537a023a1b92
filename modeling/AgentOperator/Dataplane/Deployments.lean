import AgentOperator.Dataplane.Plan

/-!
AgentOperator.Dataplane.Deployments — the five deployments of the dataplane.
-/

namespace AgentOperator.Dataplane

open Workload (EnvSource boolText intText lowPortBinding restricted)

/-! ## Monitor -/

/-- Reports the health of the dataplane. -/
def monitorPlan (spec : Agent.Spec) : DeploymentPlan :=
  let monitor := spec.components.basic.monitor
  { name := monitorName
    replicas := 1
    labels := monitor.labels
    annotations := monitor.deploymentAnnotations
    templateAnnotations := monitor.podTemplateAnnotations
    account := monitorAccount
    pullSecrets := monitor.image.pullSecrets
    volumes := [.rootCAs]
    nodeSelector := monitor.nodeSelector
    affinity := monitor.affinity
    container :=
      { resources := monitor.resources
        env :=
          [.common spec.accessTokenSecretName,
            .eventsGateway spec.gateways.coreEventsGateway,
            .configMap "MONITOR_AGENT_VERSION" agentVersionKey,
            .configMap "MONITOR_DATAPLANE_NAMESPACE" namespaceKey,
            .user monitor.env]
        image := monitor.image
        probes := some monitor.probes
        secure := restricted
        port := none
        mounts := [.rootCAs] } }

/-! ## Enforcer -/

/-- Answers the admission requests of both webhooks. -/
def enforcerPlan (spec : Agent.Spec) : DeploymentPlan :=
  let enforcer := spec.components.basic.enforcer
  { name := enforcerName
    replicas := enforcer.replicasCount
    labels := enforcer.labels
    annotations := enforcer.deploymentAnnotations
    templateAnnotations := metricsAnnotations enforcer.prometheus enforcer.podTemplateAnnotations
    account := enforcerAccount
    pullSecrets := enforcer.image.pullSecrets
    volumes := [.secret tlsVolume enforcerTlsName, .rootCAs]
    nodeSelector := enforcer.nodeSelector
    affinity := enforcer.affinity
    container :=
      { resources := enforcer.resources
        env :=
          [.common spec.accessTokenSecretName,
            .eventsGateway spec.gateways.hardeningEventsGateway,
            .value "GUARDRAILS_ENFORCER_KEY_FILE_PATH" (tlsDirectory ++ "/key"),
            .value "GUARDRAILS_ENFORCER_CERT_FILE_PATH" (tlsDirectory ++ "/signed_cert"),
            .value "GUARDRAILS_ENFORCER_PROMETHEUS_PORT" (intText enforcer.prometheus.port),
            .value "GUARDRAILS_ENFORCER_PORT" (intText enforcerContainerPort),
            .value "GIN_MODE" "release",
            .proxy spec.components.settings.proxy,
            .user enforcer.env]
        image := enforcer.image
        probes := some enforcer.probes
        secure := restricted
        port := some (httpsPortName, enforcerContainerPort)
        mounts := [⟨tlsVolume, tlsDirectory, true⟩, .rootCAs] } }

/-! ## State reporter -/

def stateReporterPlan (spec : Agent.Spec) : DeploymentPlan :=
  let reporter := spec.components.basic.stateReporter
  { name := stateReporterName
    replicas := 1
    labels := reporter.labels
    annotations := reporter.deploymentAnnotations
    templateAnnotations := reporter.podTemplateAnnotations
    account := stateReporterAccount
    pullSecrets := reporter.image.pullSecrets
    volumes := [.rootCAs]
    nodeSelector := reporter.nodeSelector
    affinity := reporter.affinity
    container :=
      { resources := reporter.resources
        env :=
          [.common spec.accessTokenSecretName,
            .eventsGateway spec.gateways.hardeningEventsGateway,
            .user reporter.env]
        image := reporter.image
        probes := some reporter.probes
        secure := restricted
        port := none
        mounts := [.rootCAs] } }

/-! ## Resolver -/

/-- How many groups of a size a number makes up, if the last may be smaller. -/
def groupCount (n size : UInt64) : UInt64 :=
  if n % size = 0 then n / size else n / size + 1

/-- A count in 32 bits. One that does not fit is cut to the greatest that does. -/
def cappedCount (n : UInt64) : Int32 :=
  if n.toNat ≤ Int32.maxValue.toNatClampNeg then .ofNat n.toNat else .maxValue

/-- The count a user gives, or one replica for every so many nodes: at least
one, and one if the nodes are not known or their ratio is not positive. -/
def resolverReplicas (nodes : Option UInt64) (count : Option Int32) (ratio : Int32) : Int32 :=
  match count, nodes with
  | some n, _ => n
  | none, some nodes =>
    if 0 < ratio then max (cappedCount (groupCount nodes ratio.toInt64.toUInt64)) 1 else 1
  | none, none => 1

/-- Tells sensors which workload a runtime event belongs to. -/
def resolverPlan (nodes : Option UInt64) (spec : Agent.Spec) : DeploymentPlan :=
  let runtime := spec.components.runtimeProtection
  let resolver := runtime.resolver
  { name := resolverName
    replicas := resolverReplicas nodes resolver.replicasCount resolver.nodesToReplicasRatio
    labels := resolver.labels
    annotations := resolver.deploymentAnnotations
    templateAnnotations := metricsAnnotations resolver.prometheus resolver.podTemplateAnnotations
    account := resolverAccount
    pullSecrets := resolver.image.pullSecrets
    volumes := [.rootCAs]
    nodeSelector := resolver.nodeSelector
    affinity := resolver.affinity
    container :=
      { resources := resolver.resources
        env :=
          [.common spec.accessTokenSecretName,
            .eventsGateway spec.gateways.runtimeEventsGateway,
            .value "RUNTIME_KUBERNETES_RESOLVER_GRPC_PORT" (intText runtime.internalGrpcPort),
            .value "RUNTIME_KUBERNETES_RESOLVER_LOG_LEVEL" resolver.logLevel,
            .value "RUNTIME_KUBERNETES_RESOLVER_PROMETHEUS_PORT"
              (intText resolver.prometheus.port),
            .value "RUNTIME_KUBERNETES_RESOLVER_PROBES_PORT" (intText resolver.probes.port),
            .value "RUNTIME_KUBERNETES_RESOLVER_INITIALIZATION_TIMEOUT_MINUTES" "3",
            .value "GIN_MODE" "release",
            .user resolver.env]
        image := resolver.image
        probes := some resolver.probes
        secure := restricted
        port := some (grpcPortName, runtime.internalGrpcPort)
        mounts := [.rootCAs] } }

/-! ## Image scanning reporter -/

/-- Takes what scanners find and passes it on. Its certificate is in a secret
that nothing here makes and that need not be there. -/
def imageScanningReporterPlan (spec : Agent.Spec) : DeploymentPlan :=
  let reporter := spec.components.clusterScanning.imageScanningReporter
  { name := imageScanningReporterName
    replicas := reporter.replicasCount
    labels := reporter.labels
    annotations := reporter.deploymentAnnotations
    templateAnnotations := metricsAnnotations reporter.prometheus reporter.podTemplateAnnotations
    account := operatorAccount
    pullSecrets := reporter.image.pullSecrets
    volumes := [.secret tlsVolume imageScanningReporterTlsName, .rootCAs]
    nodeSelector := reporter.nodeSelector
    affinity := reporter.affinity
    container :=
      { resources := reporter.resources
        env :=
          [.common spec.accessTokenSecretName,
            .eventsGateway spec.gateways.hardeningEventsGateway,
            .value "IMAGE_SCANNING_REPORTER_PROMETHEUS_PORT" (intText reporter.prometheus.port),
            .value "GIN_MODE" "release",
            .gatewayTls,
            .user reporter.env]
        image := reporter.image
        probes := none
        secure := lowPortBinding
        port := some (httpsPortName, imageScanningReporterContainerPort)
        mounts := [⟨tlsVolume, tlsDirectory, true⟩, .rootCAs] } }

end AgentOperator.Dataplane
