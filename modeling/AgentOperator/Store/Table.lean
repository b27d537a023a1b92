import AgentOperator.Store.Call

/-!
AgentOperator.Store.Table — a store in memory: a table of JSON values by kind
and key.

An object is kept as the JSON it is written as, and read back as what that
JSON decodes to. The table takes every write: it does not tell creating from
updating, and deleting what is not there changes nothing.
-/

namespace AgentOperator.Store

open Kube (Kind Object ObjectKey)

/-! ## Tables -/

/-- The place of an object in a store. -/
structure Place where
  kind : Kind
  key : ObjectKey
deriving DecidableEq, Inhabited

def placeOf (o : Object) : Place := ⟨o.kind, o.key⟩

def Call.place (c : Call) : Place := ⟨c.kind, c.key⟩

structure Table where
  rows : List (Place × Json) := []
deriving DecidableEq, Inhabited

namespace Table

/-- The value at a place. -/
def get? (t : Table) (p : Place) : Option Json :=
  (t.rows.find? fun row => decide (row.1 = p)).map (·.2)

/-- Drops the value at a place. -/
def erase (t : Table) (p : Place) : Table := ⟨t.rows.filter fun row => decide (row.1 ≠ p)⟩

/-- Writes the value at a place. -/
def put (t : Table) (p : Place) (j : Json) : Table := ⟨(p, j) :: (t.erase p).rows⟩

/-- A search that skips one place finds the same under another. -/
theorem skip_place {p q : Place} (h : p ≠ q) (row : Place × Json) :
    (row.1 ≠ p ∧ row.1 = q) ↔ row.1 = q :=
  and_iff_right_of_imp fun hr hp => h (hp.symm.trans hr)

theorem get?_erase (t : Table) (p q : Place) :
    (t.erase p).get? q = if p = q then none else t.get? q := by
  by_cases h : p = q
  · subst h
    simp [erase, get?, List.find?_filter]
  · simp only [get?, erase, List.find?_filter, decide_eq_true_eq, skip_place h, if_neg h]

theorem get?_put (t : Table) (p q : Place) (j : Json) :
    (t.put p j).get? q = if p = q then some j else t.get? q := by
  by_cases h : p = q
  · simp [put, get?, h]
  · simpa [put, get?, h] using get?_erase t p q

/-! ## Calls -/

/-- Answers a call, and leaves the table as the call makes it. -/
def answer (t : Table) : (c : Call) → Except Error c.Result × Table
  | .get template key =>
    match t.get? ⟨template.kind, key⟩ with
    | none => (.ok none, t)
    | some j => (some <$> template.decodeLike j, t)
  | .create o => (.ok (), t.put (placeOf o) o.encode)
  | .update o => (.ok (), t.put (placeOf o) o.encode)
  | .delete o => (.ok (), t.erase (placeOf o))

end Table

/-! ## Outages -/

/-- Calls that fail: those that agree with every part that is given. -/
structure Outage where
  verb : Option StoreVerb := none
  kind : Option Kind := none
  name : Option String := none
deriving DecidableEq, Inhabited

/-- Whether a call fails. -/
def Outage.covers (o : Outage) (c : Call) : Bool :=
  o.verb.all (· = c.verb) && o.kind.all (· = c.kind) && o.name.all (· = c.key.name)

/-- The error of a call that fails. -/
def unavailable (c : Call) : Error :=
  .invalidArgument (c.verb.name ++ " " ++ c.kind.name ++ " " ++ c.key.render ++ " is unavailable")

end AgentOperator.Store
