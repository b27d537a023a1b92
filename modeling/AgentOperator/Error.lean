import AgentOperator.Codec.Basic
import AgentOperator.Duration
import AgentOperator.Kube.Key

/-!
AgentOperator.Error — everything that can go wrong in the operator, and how it
is reported.

A `Fault` is a cause; an `Error` is a cause that may come with a time after
which to try again. Every cause has a label, under which it is counted, and a
message.
-/

namespace AgentOperator

open Kube (Kind ObjectKey)

/-! ## Causes -/

/-- What became of a call to the API server that gave no usable answer. -/
inductive ApiFailure where
  /-- The server answered with an error status. -/
  | status (code : Nat) (reason message : String)
  /-- The call was not made, or its answer could not be read. -/
  | unusable (reason : String)
deriving DecidableEq

namespace ApiFailure

def code? : ApiFailure → Option Nat
  | .status code .. => some code
  | .unusable _ => none

def message : ApiFailure → String
  | .status _ reason message => message ++ ": " ++ reason
  | .unusable reason => reason

end ApiFailure

/-- What is done with a stored object. -/
inductive StoreVerb where
  | get
  | create
  | update
  | delete
deriving DecidableEq

def StoreVerb.name : StoreVerb → String
  | .get => "get"
  | .create => "create"
  | .update => "update"
  | .delete => "delete"

inductive Fault where
  /-- JSON that is not of the expected type. -/
  | unreadable (cause : WireError)
  /-- A call to the API server outside the store. -/
  | api (failure : ApiFailure)
  /-- The agent's finalizer could not be set or removed. -/
  | finalizer (reason : String)
  /-- An object lacks metadata. -/
  | metadataMissing (message : String)
  | invalidArgument (message : String)
  /-- An object is of another kind than the component manages. -/
  | unexpectedKind (expected actual : Kind)
  /-- Something that has to be there first is not there. -/
  | preconditionMissing (message : String)
  /-- A store call on an object. -/
  | store (verb : StoreVerb) (kind : Kind) (key : ObjectKey) (failure : ApiFailure)
  /-- Text that does not say what it should. -/
  | misencoded (message : String)
  /-- The management gateway. -/
  | http (message : String)
deriving DecidableEq

namespace Fault

/-- The word a cause is counted under. -/
def label : Fault → String
  | .unreadable _ => "jsonserializationerror"
  | .api _ => "kubeerror"
  | .finalizer _ => "finalizererror"
  | .metadataMissing _ => "metadatamissing"
  | .invalidArgument _ => "invalidargument"
  | .unexpectedKind .. => "unexpectedobjectkind"
  | .preconditionMissing _ => "preconditionmissing"
  | .store .. => "storeerror"
  | .misencoded _ => "serializationerror"
  | .http _ => "httperror"

def message : Fault → String
  | .unreadable cause => "JsonSerializationError: " ++ cause.message
  | .api failure => "Kube Error: " ++ failure.message
  | .finalizer reason => "Finalizer Error: " ++ reason
  | .metadataMissing message => "MetadataMissing: " ++ message
  | .invalidArgument message => "InvalidArgument: " ++ message
  | .unexpectedKind expected actual =>
    "expected " ++ expected.name ++ " object, got " ++ actual.name
  | .preconditionMissing message => "PreconditionMissing: " ++ message
  | .store verb kind key failure =>
    "failed to " ++ verb.name ++ " " ++ kind.name ++ " " ++ key.render ++ ": " ++ failure.message
  | .misencoded message => "SerializationError: " ++ message
  | .http message => "HttpError: " ++ message

/-- The status code of the API server's answer, where there was one. -/
def code? : Fault → Option Nat
  | .api failure => failure.code?
  | .store _ _ _ failure => failure.code?
  | _ => none

end Fault

/-! ## Errors -/

structure Error where
  fault : Fault
  /-- When to try again, if not at the usual time. -/
  requeue : Option Duration := none
deriving DecidableEq

namespace Error

instance : Coe Fault Error := ⟨fun f => ⟨f, none⟩⟩

def label (e : Error) : String := e.fault.label

def message (e : Error) : String :=
  match e.requeue with
  | none => "Standard Error: " ++ e.fault.message
  | some d => "Error With Requeue: " ++ e.fault.message ++ " (requeue in " ++ d.render ++ ")"

def invalidArgument (message : String) : Error := Fault.invalidArgument message

def preconditionMissing (message : String) : Error := Fault.preconditionMissing message

def unexpectedKind (expected actual : Kind) : Error := Fault.unexpectedKind expected actual

end Error

/-- A reading that failed, as an error. -/
def orUnreadable (r : Except WireError α) : Except Error α :=
  match r with
  | .ok a => .ok a
  | .error e => .error (Fault.unreadable e : Fault)

end AgentOperator
