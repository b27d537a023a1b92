import AgentOperator.Script
import AgentOperator.Store.Call
import AgentOperator.Tls

/-!
AgentOperator.Dataplane.Outside — what the dataplane asks of the outside: calls
to a store of objects, facts about the cluster, and certificates.
-/

namespace AgentOperator.Dataplane

open Kube (Object ObjectKey)

inductive Request where
  | store (call : Store.Call)
  /-- The version of the cluster's kubelets. -/
  | kubeletVersion
  /-- The number of the cluster's nodes. -/
  | nodeCount
  /-- A certificate for a service. -/
  | issueTls (service : ObjectKey)

/-- What is told on success. -/
def Request.Result : Request → Type
  | .store call => call.Result
  | .kubeletVersion => String
  | .nodeCount => UInt64
  | .issueTls _ => TlsMaterial

def outside : Interface := ⟨Request, fun r => Except Error r.Result⟩

/-- Work that asks the outside and may fail. -/
abbrev Task := Attempt outside Error

namespace Task

def ask (r : Request) : Task r.Result := ExceptT.mk (Script.request (I := outside) r)

def get (template : Object) (key : ObjectKey) : Task (Option Object) :=
  ask (.store (.get template key))

def create (o : Object) : Task Unit := ask (.store (.create o))

def update (o : Object) : Task Unit := ask (.store (.update o))

def delete (o : Object) : Task Unit := ask (.store (.delete o))

def kubeletVersion : Task String := ask .kubeletVersion

def nodeCount : Task UInt64 := ask .nodeCount

def issueTls (service : ObjectKey) : Task TlsMaterial := ask (.issueTls service)

/-- A computation without requests. -/
def ofExcept (r : Except Error α) : Task α := ExceptT.mk (pure r)

end Task

end AgentOperator.Dataplane
