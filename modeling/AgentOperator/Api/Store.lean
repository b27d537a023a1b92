import AgentOperator.Api.Client
import AgentOperator.Store.Call

/-!
AgentOperator.Api.Store — the API server as a store of objects.

Each call is one request. Reading an object that is not there is no error;
every other failure names the call it befell.
-/

namespace AgentOperator.Api

open Kube (Object)

/-- The collection of the objects that are like one, in a namespace. -/
def collectionOf (o : Object) (space : Option String) : Collection :=
  { apiVersion := o.apiVersion, plural := o.kind.plural, space }

/-- A failed call to the store. -/
def storeError (c : Store.Call) (failure : ApiFailure) : Error :=
  (Fault.store c.verb c.kind c.key failure : Fault)

/-- A write, of which only success or failure is told. -/
def storeWrite (c : Store.Call) (call : Call α) : Script outside (Except Error Unit) := do
  match ← call.run with
  | .ok _ => return .ok ()
  | .error failure => return .error (storeError c failure)

/-- Answers a call to the store. -/
def answerStore : (c : Store.Call) → Script outside (Except Error c.Result)
  | .get template key => do
    match ← ((collectionOf template key.namespace).get anyObject key.name).run with
    | .ok j => return some <$> template.decodeLike j
    | .error failure =>
      if failure.code? = some 404 then return .ok none
      else return .error (storeError (.get template key) failure)
  | .create o => storeWrite (.create o) ((collectionOf o o.key.namespace).create anyObject o.encode)
  | .update o =>
    storeWrite (.update o) ((collectionOf o o.key.namespace).replace o.key.name o.encode)
  | .delete o => storeWrite (.delete o) ((collectionOf o o.key.namespace).delete o.key.name)

end AgentOperator.Api
