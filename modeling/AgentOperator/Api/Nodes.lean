import AgentOperator.Api.Client
import AgentOperator.Kube.Node

/-!
AgentOperator.Api.Nodes — what the API server tells about the machines of the
cluster.
-/

namespace AgentOperator.Api

open Kube (Node)

def nodes : Collection := { apiVersion := "v1", plural := "nodes" }

/-- A call whose failure concerns no single object. -/
def orApiFault (call : Call α) : Script outside (Except Error α) := do
  match ← call.run with
  | .ok a => return .ok a
  | .error failure => return .error (Fault.api failure : Fault)

/-- The kubelet version of the first node. -/
def kubeletVersion : Script outside (Except Error String) := do
  match ← orApiFault (nodes.list Node.codec "limit=1") with
  | .error e => return .error e
  | .ok found =>
    match found.head?.bind Node.kubeletVersion? with
    | some version => return .ok version
    | none => return .error (.preconditionMissing "no node reports a kubelet version")

/-- The number of nodes. -/
def nodeCount : Script outside (Except Error UInt64) := do
  return (← orApiFault (nodes.list metadataOnly "")).map fun found => UInt64.ofNat found.length

end AgentOperator.Api
