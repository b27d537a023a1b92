import AgentOperator.Agent.Spec
import AgentOperator.Dataplane.Names
import AgentOperator.Keyed

/-!
AgentOperator.Workload.Env — the environment of a container.

An environment is put together from sources, from the least to the most
specific: of two variables with one name the later is kept (`Env.ofSources`).
It is compared with a container's as a set, and a container whose environment
is the same set is left alone.
-/

namespace AgentOperator.Workload

open Kube (Container EnvVar EnvVarSource)
open Dataplane

/-! ## Variables -/

def plainVar (name value : String) : EnvVar := { name, value := some value }

def configMapVar (name key : String) : EnvVar :=
  { name, valueFrom := some { configMapKeyRef := some { name := configMapName, key } } }

/-- The access token in a secret. -/
def tokenVar (name secret : String) : EnvVar :=
  { name, valueFrom := some { secretKeyRef := some { name := secret, key := accessTokenKey } } }

def fieldVar (name fieldPath apiVersion : String) : EnvVar :=
  { name, valueFrom := some { fieldRef := some { fieldPath, apiVersion := some apiVersion } } }

def resourceVar (name container resource : String) : EnvVar :=
  { name,
    valueFrom := some { resourceFieldRef := some { containerName := some container, resource } } }

def boolText (b : Bool) : String := if b then "true" else "false"

def intText (i : Int32) : String := toString i.toInt

/-! ## Sources -/

/-- Where variables come from. -/
inductive EnvSource where
  /-- What the user gave. -/
  | user (vars : Dict String)
  | eventsGateway (gateway : Agent.EventsGateway)
  | gatewayTls
  | value (name text : String)
  | resource (name container amount : String)
  | field (name path apiVersion : String)
  | token (name secret : String)
  | configMap (name key : String)
  /-- Who the dataplane is and how it reaches the management API. -/
  | common (tokenSecret : String)
  | proxy (settings : Agent.Proxy)

def gatewayTlsVars : List EnvVar :=
  [configMapVar "TLS_INSECURE_SKIP_VERIFY" tlsSkipVerifyKey,
    configMapVar "TLS_ROOT_CAS_PATH" tlsRootCAsPathKey]

def commonVars (tokenSecret : String) : List EnvVar :=
  [tokenVar "OCTARINE_ACCESS_TOKEN" tokenSecret,
    configMapVar "OCTARINE_ACCOUNT" accountKey,
    configMapVar "OCTARINE_DOMAIN" clusterKey,
    configMapVar "OCTARINE_API_SCHEME" apiSchemeKey,
    configMapVar "OCTARINE_API_HOST" apiHostKey,
    configMapVar "OCTARINE_API_PORT" apiPortKey,
    configMapVar "OCTARINE_API_ADAPTER_NAME" apiAdapterKey,
    configMapVar "OCTARINE_AGENT_VERSION" agentVersionKey] ++ gatewayTlsVars

/-- The proxies that are given, and the hosts to reach without one. -/
def proxyVars (p : Agent.Proxy) : List EnvVar :=
  let hosts := ([p.noProxy, p.noProxySuffix].filterMap id).filter (· != "")
  if !p.enabled then []
  else
    (p.httpProxy.map (plainVar "HTTP_PROXY")).toList ++
      (p.httpsProxy.map (plainVar "HTTPS_PROXY")).toList ++
      (if hosts.isEmpty then [] else [plainVar "NO_PROXY" (String.intercalate "," hosts)])

/-- The variables of a source, in the order in which they are written. -/
def EnvSource.vars : EnvSource → List EnvVar
  | .user given => given.toList.map fun (name, text) => plainVar name text
  | .eventsGateway g =>
    [plainVar "OCTARINE_MESSAGEPROXY_HOST" g.host,
      plainVar "OCTARINE_MESSAGEPROXY_PORT" (intText g.port)]
  | .gatewayTls => gatewayTlsVars
  | .value name text => [plainVar name text]
  | .resource name container amount => [resourceVar name container amount]
  | .field name path apiVersion => [fieldVar name path apiVersion]
  | .token name secret => [tokenVar name secret]
  | .configMap name key => [configMapVar name key]
  | .common tokenSecret => commonVars tokenSecret
  | .proxy settings => proxyVars settings

/-! ## Environments -/

/-- Variables by name. -/
structure Env where
  vars : Dict EnvVar
deriving DecidableEq

namespace Env

def empty : Env := ⟨∅⟩

def write (e : Env) (v : EnvVar) : Env := ⟨e.vars.insert v.name v⟩

def add (e : Env) (s : EnvSource) : Env := s.vars.foldl write e

/-- The sources written one after the other. -/
def ofSources (sources : List EnvSource) : Env := sources.foldl add empty

/-- The variables in the order of their names. -/
def build (e : Env) : List EnvVar := e.vars.values

/-- Whether a container's variable is the desired one. Of a reference to a
resource the divisor is not compared, because the API server fills it in. -/
def sameVar (actual desired : EnvVar) : Bool :=
  match desired.valueFrom.bind (·.resourceFieldRef) with
  | some d =>
    match actual.valueFrom.bind (·.resourceFieldRef) with
    | some a => decide (a.containerName = d.containerName) && decide (a.resource = d.resource)
    | none => false
  | none => decide (actual = desired)

/-- Whether a container's variables are those of the environment: as many, and
each of them one of it. -/
def matchesVars (e : Env) (actual : List EnvVar) : Bool :=
  decide (actual.length = e.vars.size) &&
    actual.all fun v => (e.vars.get? v.name).any (sameVar v)

end Env

/-- Gives a container the environment, unless it has it. -/
def withEnv (e : Env) (c : Container) : Container :=
  if e.matchesVars (c.env.getD []) then c else { c with env := Keyed.unlessEmpty e.build }

end AgentOperator.Workload
