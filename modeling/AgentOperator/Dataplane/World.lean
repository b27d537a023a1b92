import AgentOperator.Dataplane.Outside
import AgentOperator.Store.Table

/-!
AgentOperator.Dataplane.World — an outside for passes that is a value: a store
in memory that can fail, a cluster that reports given facts, and an issuer of
one certificate. It keeps a record of what was asked.
-/

namespace AgentOperator.Dataplane

open Kube (Kind ObjectKey)

/-- A call that changes the store, as it was asked. -/
structure Write where
  verb : StoreVerb
  kind : Kind
  key : ObjectKey
  failed : Bool
deriving DecidableEq

structure World where
  store : Store.Table := {}
  outages : List Store.Outage := []
  /-- The kubelet version that the cluster reports. -/
  kubelet : Option String := none
  /-- The number of nodes that the cluster reports. -/
  nodes : Option UInt64 := none
  /-- The certificate that is issued to everyone. -/
  tls : Option TlsMaterial := none
  writes : List Write := []
  kubeletCalls : Nat := 0
  nodeCalls : Nat := 0

/-- A certificate for a service, where there is one to give. -/
def issueFrom (tls : Option TlsMaterial) (service : ObjectKey) : Except Error TlsMaterial :=
  match tls with
  | some tls => .ok tls
  | none => .error (.preconditionMissing ("no tls material for " ++ service.render))

namespace World

/-- Answers a call to the store. A call that fails changes nothing. -/
def call (c : Store.Call) (w : World) : Except Error c.Result × World :=
  let failed := w.outages.any (·.covers c)
  let w := if c.isWrite then { w with writes := w.writes ++ [⟨c.verb, c.kind, c.key, failed⟩] } else w
  if failed then (.error (Store.unavailable c), w)
  else
    let (result, store) := w.store.answer c
    (result, { w with store })

/-- A fact of the cluster, where it is known. -/
def fact (value : Option α) (missing : String) : Except Error α :=
  match value with
  | some a => .ok a
  | none => .error (.preconditionMissing missing)

/-- Answers a request. -/
def answer : (r : Request) → StateM World (outside.Reply r)
  | .store c => fun w => w.call c
  | .kubeletVersion => fun w =>
    (fact w.kubelet "no kubelet version", { w with kubeletCalls := w.kubeletCalls + 1 })
  | .nodeCount => fun w => (fact w.nodes "no node count", { w with nodeCalls := w.nodeCalls + 1 })
  | .issueTls service => fun w => (issueFrom w.tls service, w)

end World

end AgentOperator.Dataplane
