import AgentOperator.Dict
import AgentOperator.Error

/-!
AgentOperator.Metrics — what the operator counts.

A family is a name with samples, each a count under values of the family's
labels. A family with labels has no samples until something is counted.
-/

namespace AgentOperator

/-! ## Counts -/

/-- Adds one to the count under a key. -/
def countOne (key : String) (counts : Dict Nat) : Dict Nat :=
  counts.alter key fun n => some (n.getD 0 + 1)

structure Metrics where
  /-- Reconciliations begun. -/
  reconciliations : Nat := 0
  /-- Durations measured, by controller. -/
  durations : Dict Nat := ∅
  /-- Failed reconciliations, by agent and by label of the error. -/
  failures : Dict (Dict Nat) := ∅
  /-- Objects created or updated in passes, by component. -/
  applied : Dict Nat := ∅
deriving DecidableEq, Inhabited

namespace Metrics

def countApplied (component : String) (m : Metrics) : Metrics :=
  { m with applied := countOne component m.applied }

def countFailure (agent : String) (e : Error) (m : Metrics) : Metrics :=
  { m with
    failures := m.failures.alter agent fun counts => some (countOne e.label (counts.getD ∅)) }

/-- Counts a reconciliation and the measurement of its duration. -/
def countReconciliation (controller : String) (m : Metrics) : Metrics :=
  { m with
    reconciliations := m.reconciliations + 1
    durations := countOne controller m.durations }

/-! ## Samples -/

/-- A count under values of labels, in the order of the labels' names. -/
structure Sample where
  labels : List (String × String)
  count : Nat
deriving DecidableEq

/-- The samples of a family with one label. -/
def samplesBy (label : String) (counts : Dict Nat) : List Sample :=
  counts.toList.map fun (value, count) => ⟨[(label, value)], count⟩

/-- All families with their samples. -/
def families (m : Metrics) : List (String × List Sample) :=
  [("controller_reconcile_duration_seconds", samplesBy "instance" m.durations),
    ("controller_reconciliation_errors_total",
      m.failures.toList.flatMap fun (agent, counts) =>
        counts.toList.map fun (error, count) => ⟨[("error", error), ("instance", agent)], count⟩),
    ("reconciliations_total", [⟨[], m.reconciliations⟩]),
    ("dataplane_applied_objects_total", samplesBy "component" m.applied)]

end Metrics

/-! ## Registration -/

/-- The names of the families that are exposed. -/
structure Registry where
  names : List String := []
deriving DecidableEq, Inhabited

/-- Exposes the families of the operator. A name can be exposed only once. -/
def Registry.register (r : Registry) : Except Error Registry :=
  let names := ({} : Metrics).families.map (·.1)
  if names.any r.names.contains then
    .error (.invalidArgument
      "failed to register metrics: Duplicate metrics collector registration attempted")
  else .ok ⟨r.names ++ names⟩

end AgentOperator
