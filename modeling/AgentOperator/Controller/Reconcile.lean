import AgentOperator.Agent.Condition
import AgentOperator.Agent.Defaults
import AgentOperator.Config
import AgentOperator.Controller.Event
import AgentOperator.Controller.Finalizer
import AgentOperator.Controller.Outside
import AgentOperator.Controller.Ownership
import AgentOperator.Text.Utf8

/-!
AgentOperator.Controller.Reconcile — one look at one agent.

A live agent is applied, after everything that speaks against it was checked,
and what came of it is reported in its status. A deleted agent is cleaned up.
-/

namespace AgentOperator.Controller

open Kube (Secret)

/-- When to look at an agent again. -/
inductive Next where
  | onChange
  | after (time : Duration)
deriving DecidableEq

def agents : Api.Collection := { apiVersion := Agent.apiVersion, plural := Agent.pluralName }

/-! ## Gates -/

/-- Two agents would fight over the same objects. -/
def checkSingleAgent : Work Unit := do
  let found ← Work.ofCall (agents.list Api.metadataOnly "")
  if 1 < found.length then
    throw (.invalidArgument ("there is more than 1 CBContainersAgent k8s object, " ++
      "please delete unwanted resources"))

/-- The key of the access token in its secret. -/
def accessTokenKey : String := "accessToken"

/-- How long to wait for the access token's secret to show up. -/
def missingTokenRequeue : Duration := .ofSeconds 30

/-- The access token in a secret. -/
def tokenIn (secret : Secret) : Except Error String :=
  let token := (secret.data.bind (·.get? accessTokenKey)).map Utf8.decodeLossy
  match token.filter (· ≠ "") with
  | some token => .ok token
  | none =>
    .error (.preconditionMissing ("the k8s secret " ++ secret.metadata.anyName ++
      " is missing the key " ++ accessTokenKey))

/-- The token that the gateway is asked with. That its secret is not there yet
is known from the reason the server gives. -/
def readAccessToken (spec : Agent.Spec) : Work String := do
  let secrets : Api.Collection :=
    { apiVersion := "v1", plural := "secrets", space := some spec.namespace }
  let read := secrets.get Secret.codec.read spec.accessTokenSecretName
  match ← Work.ofScript (Except.ok <$> ofApi read.run) with
  | .ok secret => Work.ofExcept (tokenIn secret)
  | .error (.status _ "NotFound" _) =>
    throw
      { fault := .preconditionMissing ("couldn't find access token secret " ++ spec.namespace ++
          "/" ++ spec.accessTokenSecretName)
        requeue := some missingTokenRequeue }
  | .error failure => Work.fail (.api failure)

/-- The credentials that the dataplane's images are pulled with. -/
def fetchCredentials (spec : Agent.Spec) (accessToken : String) : Work RegistryCredentials := do
  let request ← Work.ofExcept (Gateway.Request.forCredentials spec accessToken)
  let reply ← Work.ask (.gateway request)
  Work.ofExcept (Gateway.Reply.credentials reply)

/-! ## Application -/

/-- Applies an agent's spec, and tells whether anything was written. Nothing is
written unless every check passes. -/
def applyAgent (a : Agent.Resource) (spec : Agent.Spec) : Work Bool := do
  Work.ofExcept spec.validate
  checkSingleAgent
  let token ← readAccessToken spec
  let credentials ← fetchCredentials spec token
  let setOwner ← Work.ofExcept (ownerSetter a spec)
  Work.ofPass (Dataplane.applyDesiredState spec credentials (some setOwner))

/-- The name under which the operator writes an agent's status. -/
def fieldManager : String := "cbcontainers-agent-controller"

/-- The status after a reconciliation, unless it is the one that is there. -/
def newStatus? (a : Agent.Resource) (now : Timestamp) (outcome : Agent.Outcome) :
    Option Agent.Status :=
  let old := a.status.getD {}
  let (conditions, changed) :=
    Agent.setCondition now (Agent.readyCondition now a.metadata.generation outcome) old.conditions
  let observedGeneration := a.metadata.generation.getD 0
  if !changed && old.observedGeneration = observedGeneration then none
  else some { observedGeneration, conditions }

def statusPatch (s : Agent.Status) : Json := .object
  [("apiVersion", .str Agent.apiVersion), ("kind", .str Agent.kindName),
    ("status", Agent.Status.described.codec.encode s)]

/-- Reports what came of a reconciliation, if that is news. -/
def reportStatus (a : Agent.Resource) (outcome : Except Error Bool) : Work Unit := do
  let now ← Work.ask .now
  match newStatus? a now (outcome.mapError Error.message) with
  | none => return ()
  | some status =>
    let query := "fieldManager=" ++ fieldManager ++ "&force=true"
    let _ ← Work.ofCall
      (agents.patch Agent.Resource.codec.read a.name "/status" query (statusPatch status))

/-- Applies a live agent and reports on it. A report that fails takes the place
of what was to be reported. -/
def applyAndReport (config : OperatorConfig) (a : Agent.Resource) : Work Next := do
  let outcome ← (applyAgent a a.spec.withDefaults).outcome
  reportStatus a outcome
  let _ ← Work.ofExcept outcome
  return .after config.requeue

/-! ## Cleanup -/

/-- Deletes what an agent leaves behind, and leaves an event. -/
def cleanUp (a : Agent.Resource) : Work Unit := do
  let _ ← Work.ofPass (Dataplane.deleteClusterScoped a.spec.withDefaults)
  let event := deletionEvent a (← Work.ask .now) (← Work.ask .freshNumber)
  let events : Api.Collection :=
    { apiVersion := "events.k8s.io/v1", plural := "events", space := some (eventSpace a) }
  let _ ← Work.ofCall (events.create Event.codec.read (Event.codec.encode event))

/-! ## Reconciliation -/

/-- The name that a patch of the finalizers goes to. -/
def finalizedName (a : Agent.Resource) : Work String :=
  match a.metadata.name with
  | some name => return name
  | none => Work.fail (.finalizer "the agent has no name")

/-- Patches an agent's finalizers. -/
def patchFinalizers (name : String) (change : Json) : Work Unit := do
  match ← Work.ofScript
      (Except.ok <$> ofApi (agents.patch Agent.Resource.codec.read name "" "" change).run) with
  | .ok _ => return ()
  | .error failure => Work.fail (.finalizer failure.message)

/-- The label under which reconciliations are timed. -/
def timedAs : String := "agent"

/-- Brings the cluster to what an agent asks for. -/
def reconcile (config : OperatorConfig) (a : Agent.Resource) : Work Next := do
  modify fun m => { m with metrics := m.metrics.countReconciliation timedAs }
  match stage a with
  | .live => applyAndReport config a
  | .unmarked =>
    patchFinalizers (← finalizedName a) (addMark (finalizers a))
    return .onChange
  | .deleted index =>
    let name ← finalizedName a
    cleanUp a
    patchFinalizers name (removeMark index)
    return .onChange
  | .gone => return .onChange

end AgentOperator.Controller
