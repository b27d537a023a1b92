/-!
AgentOperator.Dataplane.Names — the names, keys and paths that the objects of
the dataplane and the agents running in it agree on.
-/

namespace AgentOperator.Dataplane

/-! ## Objects -/

def configMapName : String := "cbcontainers-dataplane-config"

def registrySecretName : String := "cbcontainers-registry-secret"

def priorityClassName : String := "cbcontainers-dataplane-priority-class"

def monitorName : String := "cbcontainers-monitor"

def enforcerName : String := "cbcontainers-hardening-enforcer"

def enforcerTlsName : String := "cbcontainers-hardening-enforcer-tls"

def stateReporterName : String := "cbcontainers-hardening-state-reporter"

def resolverName : String := "cbcontainers-runtime-resolver"

def imageScanningReporterName : String := "cbcontainers-image-scanning-reporter"

def imageScanningReporterTlsName : String := "cbcontainers-hardening-image-scanning-reporter-tls"

def nodeAgentName : String := "cbcontainers-node-agent"

def sensorContainerName : String := "cbcontainers-runtime"

def scannerContainerName : String := "cbcontainers-cluster-scanner"

/-! ## Service accounts -/

def operatorAccount : String := "cbcontainers-operator"

def nodeAgentAccount : String := "cbcontainers-agent-node"

def stateReporterAccount : String := "cbcontainers-state-reporter"

def enforcerAccount : String := "cbcontainers-enforcer"

def monitorAccount : String := "cbcontainers-monitor"

def resolverAccount : String := "cbcontainers-runtime-resolver"

/-! ## Labels, annotations and namespaces -/

def appNameLabel : String := "app.kubernetes.io/name"

def scrapeKey : String := "prometheus.io/scrape"

def metricsPortKey : String := "prometheus.io/port"

def systemNamespace : String := "kube-system"

/-! ## Keys of the config map -/

def accountKey : String := "Account"

def clusterKey : String := "Cluster"

def agentVersionKey : String := "AgentVersion"

def namespaceKey : String := "DataplaneNamespace"

def apiSchemeKey : String := "ApiScheme"

def apiHostKey : String := "ApiHost"

def apiPortKey : String := "ApiPort"

def apiAdapterKey : String := "ApiAdapter"

def tlsSkipVerifyKey : String := "TLS.SkipVerify"

def tlsRootCAsPathKey : String := "TLS.RootCAsPath"

/-- The key of the bundle of root certificates, and its file name. -/
def rootCAsFile : String := "root.pem"

/-- Where the bundle of root certificates is mounted. -/
def rootCAsDirectory : String := "/etc/gateway-certs"

def rootCAsVolume : String := "root-cas"

/-! ## Secrets and volumes -/

/-- The key of the access token in its secret. -/
def accessTokenKey : String := "accessToken"

def tlsVolume : String := "cert"

def tlsDirectory : String := "/etc/octarine-certificates"

/-- Readable by all, writable by the owner. -/
def volumeMode : Int32 := 0o644

/-! ## Ports -/

def httpsPortName : String := "https"

def grpcPortName : String := "grpc"

def metricsPortName : String := "metrics"

def enforcerContainerPort : Int32 := 8080

def imageScanningReporterContainerPort : Int32 := 443

def httpsServicePort : Int32 := 443

/-- The name by which a service is found inside the cluster. -/
def serviceAddress (name space : String) : String := name ++ "." ++ space ++ ".svc.cluster.local"

end AgentOperator.Dataplane
