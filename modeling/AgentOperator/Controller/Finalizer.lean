import AgentOperator.Agent.Resource

/-!
AgentOperator.Controller.Finalizer — the mark that keeps a deleted agent until
it is cleaned up.

What is to be done about an agent follows from whether it has the mark and from
whether it is being deleted. The mark is set and removed by patches that test
first, so that a patch that comes too late fails.
-/

namespace AgentOperator.Controller

/-! ## Stages -/

/-- What is to be done about an agent. -/
inductive Stage where
  /-- It needs the mark before anything is applied. -/
  | unmarked
  /-- It is to be applied. -/
  | live
  /-- It is to be cleaned up; the mark stands at an index. -/
  | deleted (index : Nat)
  /-- It goes away by itself. -/
  | gone
deriving DecidableEq

/-- The marks of an agent. -/
def finalizers (a : Agent.Resource) : List String := a.metadata.finalizers.getD []

/-- The index of the first mark that is the operator's. -/
def markIndex? (marks : List String) : Option Nat :=
  marks.findIdx? fun m => decide (m = Agent.finalizerName)

def stage (a : Agent.Resource) : Stage :=
  match markIndex? (finalizers a), a.metadata.deletionTimestamp with
  | some _, none => .live
  | some i, some _ => .deleted i
  | none, none => .unmarked
  | none, some _ => .gone

/-! ## Patches -/

/-- A step that lets a patch fail unless a value is in its place. -/
def testing (path : String) (value : Json) : Json :=
  .object [("op", .str "test"), ("path", .str path), ("value", value)]

def adding (path : String) (value : Json) : Json :=
  .object [("op", .str "add"), ("path", .str path), ("value", value)]

def removing (path : String) : Json := .object [("op", .str "remove"), ("path", .str path)]

/-- Sets the mark behind the marks an agent has. -/
def addMark (marks : List String) : Json :=
  let all := "/metadata/finalizers"
  if marks.isEmpty then
    .arr [testing all .null, adding all (.arr [.str Agent.finalizerName])]
  else
    .arr [testing all (.arr (marks.map .str)), adding (all ++ "/-") (.str Agent.finalizerName)]

/-- Removes the mark at an index. -/
def removeMark (index : Nat) : Json :=
  let path := "/metadata/finalizers/" ++ toString index
  .arr [testing path (.str Agent.finalizerName), removing path]

end AgentOperator.Controller
