import AgentOperator.Api.Answer
import AgentOperator.Api.Request

/-!
AgentOperator.Api.Client — calls to the API server.

A call fails if the server answers with an error status, and also if it cannot
be made or if its answer is not what was asked for. Only in the first case is
there a status code.
-/

namespace AgentOperator.Api

/-- A call with a result. -/
abbrev Call := Attempt outside ApiFailure

/-! ## Answers -/

/-- The failure that an error status stands for: what the server reports, or
else the status alone. -/
def Response.failure (r : Response) : ApiFailure :=
  match r.body.map ErrorReport.codec.read with
  | some (.ok e) => .status e.code.toNat e.reason e.message
  | _ => .status r.status "Failed to parse error data" "no report"

/-- The body of a response that is not an error. -/
def Response.content (r : Response) : Except ApiFailure Json.Source :=
  if 400 ≤ r.status ∧ r.status < 600 then .error r.failure
  else match r.body with
    | some s => .ok s
    | none => .error (.unusable "the answer is no JSON")

namespace Call

/-- A value as an answer. -/
def reading (r : Except WireError α) : Call α :=
  match r with
  | .ok a => pure a
  | .error e => throw (.unusable e.message)

/-- Makes a request and takes the body of the answer. -/
def send (method : Method) (target : String) (body : Option Json) : Call Json.Source := do
  let request ← ExceptT.mk (pure (Request.forTarget method target body))
  let response : Response ← liftM (Script.request (I := outside) request)
  ExceptT.mk (pure response.content)

end Call

/-! ## Calls -/

namespace Collection

open Call (reading send)

/-- The path of an object, in a call. -/
def target (c : Collection) (name : String) : Call String := ExceptT.mk (pure (c.item name))

/-- A target with a query behind a question mark, which stands there even if
nothing follows. -/
def withQuery (target : String) (query : String) : String := target ++ "?" ++ query

/-- Reads the object with a name. -/
def get (c : Collection) (read : Json.Source → Except WireError α) (name : String) :
    Call α := do
  reading (read (← send .get (← c.target name) none))

/-- Reads the objects of a collection. -/
def list (c : Collection) (item : Codec α) (query : String) : Call (List α) := do
  reading ((objectList item).read (← send .get (withQuery c.path query) none))

/-- Adds an object, and reads it as the server has it. -/
def create (c : Collection) (read : Json.Source → Except WireError α) (object : Json) :
    Call α := do
  reading (read (← send .post (withQuery c.path "") (some object)))

/-- Puts an object in the place of the one with a name. -/
def replace (c : Collection) (name : String) (object : Json) : Call Json := do
  reading (anyObject (← send .put (withQuery (← c.target name) "") (some object)))

def delete (c : Collection) (name : String) : Call Unit := do
  reading (deletionAnswer (← send .delete (withQuery (← c.target name) "") none))

/-- Changes the object with a name, or a part of it, and reads the outcome. -/
def patch (c : Collection) (read : Json.Source → Except WireError α) (name part query : String)
    (change : Json) : Call α := do
  reading (read (← send .patch (withQuery ((← c.target name) ++ part) query) (some change)))

end Collection

end AgentOperator.Api
