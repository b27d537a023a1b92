import AgentOperator.Kube.Object

/-!
AgentOperator.Store.Call — what can be asked of a store of objects.

A store is whatever answers these calls: the API server of a cluster, or a
table in memory.
-/

namespace AgentOperator.Store

open Kube (Kind Object ObjectKey)

inductive Call where
  /-- Reads the object under a key as one of the kind and API generation of
  `template`; an object that is not there is no error. -/
  | get (template : Object) (key : ObjectKey)
  | create (object : Object)
  /-- Puts an object in the place of a stored one. -/
  | update (object : Object)
  | delete (object : Object)

namespace Call

def verb : Call → StoreVerb
  | .get .. => .get
  | .create _ => .create
  | .update _ => .update
  | .delete _ => .delete

/-- The kind of object the call is about. -/
def kind : Call → Kind
  | .get template _ => template.kind
  | .create o | .update o | .delete o => o.kind

/-- The key of the object the call is about; an object that is written or
deleted names itself. -/
def key : Call → ObjectKey
  | .get _ key => key
  | .create o | .update o | .delete o => o.key

/-- Whether the call changes the store. -/
def isWrite : Call → Bool
  | .get .. => false
  | _ => true

/-- What a call that succeeds answers. -/
def Result : Call → Type
  | .get .. => Option Object
  | _ => Unit

end Call

end AgentOperator.Store
