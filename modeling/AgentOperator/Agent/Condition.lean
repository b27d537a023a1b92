import AgentOperator.Kube.Meta

/-!
AgentOperator.Agent.Condition — the conditions an agent reports: a list in
which each type stands once, and the condition `Ready` that sums up a
reconciliation.
-/

namespace AgentOperator.Agent

open Kube (Condition)

/-! ## Lists of conditions -/

/-- The first condition of a type. -/
def findCondition? (type : String) (conditions : List Condition) : Option Condition :=
  conditions.find? fun c => decide (c.type = type)

/-- Whether the condition of a type holds. -/
def conditionHolds (type : String) (conditions : List Condition) : Bool :=
  (findCondition? type conditions).any fun c => decide (c.status = "True")

/-- Whether two conditions say the same, whenever they began to. -/
def sameReport (a b : Condition) : Bool :=
  decide (a.status = b.status) && decide (a.reason = b.reason) &&
    decide (a.message = b.message) && decide (a.observedGeneration = b.observedGeneration)

/-- A condition with the report of a new one of its type. Its time is that of
the last change of status. -/
def refreshed (now : Timestamp) (new old : Condition) : Condition :=
  { old with
    status := new.status
    reason := new.reason
    message := new.message
    observedGeneration := new.observedGeneration
    lastTransitionTime := if old.status = new.status then old.lastTransitionTime else now }

/-- Sets the condition of a type, and tells whether that changed anything. A
type that is not there is put at the end. -/
def setCondition (now : Timestamp) (new : Condition) : List Condition → List Condition × Bool
  | [] => ([{ new with lastTransitionTime := now }], true)
  | c :: cs =>
    if c.type = new.type then (refreshed now new c :: cs, !sameReport c new)
    else
      let (cs, changed) := setCondition now new cs
      (c :: cs, changed)

/-! ## Readiness -/

def readyType : String := "Ready"

/-- What came of a reconciliation: whether objects were written, or why it
failed. -/
abbrev Outcome := Except String Bool

/-- The report on a reconciliation. -/
def readyCondition (now : Timestamp) (generation : Option Int64) (outcome : Outcome) : Condition :=
  let (status, reason, message) := match outcome with
    | .ok true => ("True", "DataplaneApplied", "dataplane objects were created or updated")
    | .ok false => ("True", "DataplaneApplied", "dataplane objects are up to date")
    | .error text => ("False", "DataplaneApplyFailed", text)
  { type := readyType
    status
    reason
    message
    lastTransitionTime := now
    observedGeneration := generation }

end AgentOperator.Agent
