import AgentOperator.Api.Nodes
import AgentOperator.Api.Store
import AgentOperator.Dataplane.Pass
import AgentOperator.Gateway

/-!
AgentOperator.Controller.Outside — what the controller asks of the outside, and
how the dataplane's requests become requests of the controller.
-/

namespace AgentOperator.Controller

open Kube (ObjectKey)

inductive Request where
  | api (request : Api.Request)
  | gateway (request : Gateway.Request)
  /-- A certificate for a service. -/
  | issueTls (service : ObjectKey)
  | now
  /-- A number that was not given before. -/
  | freshNumber

def Request.Reply : Request → Type
  | .api _ => Api.Response
  | .gateway _ => Gateway.Reply
  | .issueTls _ => Except Error TlsMaterial
  | .now => Timestamp
  | .freshNumber => Nat

def outside : Interface := ⟨Request, Request.Reply⟩

/-! ## Requests of parts -/

/-- A script for the API server, as one for the outside. -/
def ofApi (s : Script Api.outside α) : Script outside α :=
  s.run fun r => Script.request (I := outside) (.api r)

/-- Answers the dataplane: objects, nodes and versions are the API server's. -/
def answerDataplane : (r : Dataplane.Request) → Script outside (Dataplane.outside.Reply r)
  | .store call => ofApi (Api.answerStore call)
  | .kubeletVersion => ofApi Api.kubeletVersion
  | .nodeCount => ofApi Api.nodeCount
  | .issueTls service => Script.request (I := outside) (.issueTls service)

/-! ## Work -/

/-- Work of the controller. What is remembered is kept on failure too. -/
abbrev Work := ExceptT Error (StateT Dataplane.Memory (Script outside))

namespace Work

def ofScript (s : Script outside (Except Error α)) : Work α := ExceptT.mk (StateT.lift s)

/-- Asks one thing. -/
def ask (r : Request) : Work (outside.Reply r) :=
  ofScript (Except.ok <$> Script.request (I := outside) r)

def ofExcept (r : Except Error α) : Work α := ofScript (pure r)

def fail (f : Fault) : Work α := throw (f : Error)

/-- A call to the API server. -/
def ofCall (call : Api.Call α) : Work α := ofScript (ofApi (Api.orApiFault call))

/-- Work on the dataplane. -/
def ofPass (p : Dataplane.Pass α) : Work α :=
  ExceptT.mk fun memory => (p.run.run memory).run answerDataplane

/-- What comes of work, as a value. -/
def outcome (w : Work α) : Work (Except Error α) := ExceptT.mk (Except.ok <$> w.run)

end Work

end AgentOperator.Controller
