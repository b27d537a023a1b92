import AgentOperator.Api.Server
import AgentOperator.Controller.Outside
import AgentOperator.TlsDirectory

/-!
AgentOperator.Controller.World — an outside for the controller that is a value:
an API server in memory, a gateway with one reply, a directory with
certificates and a clock that stands still.
-/

namespace AgentOperator.Controller

structure World where
  server : Api.Server := {}
  gateway : Gateway.Reply
  tls : TlsDirectory
  now : Timestamp
  /-- How many numbers were given. -/
  numbers : Nat := 0

namespace World

/-- Answers a request. -/
def answer : (r : Request) → StateM World (outside.Reply r)
  | .api r => fun w =>
    let (response, server) := Api.Server.answer r w.server
    (response, { w with server })
  | .gateway _ => fun w => (w.gateway, w)
  | .issueTls service => fun w => (w.tls.issue service, w)
  | .now => fun w => (w.now, w)
  | .freshNumber => fun w => (w.numbers, { w with numbers := w.numbers + 1 })

/-- Does work in a world. -/
def perform (w : World) (memory : Dataplane.Memory) (work : Work α) :
    (Except Error α × Dataplane.Memory) × World :=
  ((work.run.run memory).run answer).run w

end World

end AgentOperator.Controller
