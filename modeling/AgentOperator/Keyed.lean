/-!
AgentOperator.Keyed — lists whose elements are looked up by a test, such as
having a name, where the first to pass it counts.
-/

namespace AgentOperator.Keyed

variable {α : Type u}

/-- Changes the first element that passes the test, or puts a changed `fresh`
one at the end. -/
def upsert (test : α → Bool) (fresh : α) (change : α → α) : List α → List α
  | [] => [change fresh]
  | x :: xs => if test x then change x :: xs else x :: upsert test fresh change xs

/-- Changes the first element that passes the test. -/
def modify (test : α → Bool) (change : α → α) : List α → List α
  | [] => []
  | x :: xs => if test x then change x :: xs else x :: modify test change xs

/-- `none` for no elements. The API server drops empty lists, so an empty list
would differ from what is read back. -/
def unlessEmpty (xs : List α) : Option (List α) := if xs.isEmpty then none else some xs

end AgentOperator.Keyed
