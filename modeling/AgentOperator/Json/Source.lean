import AgentOperator.Json.Basic

/-!
AgentOperator.Json.Source — JSON texts before it is settled what is made of
them.

A well-formed text need not stand for one value. It may hold parts that can be
passed over but not read: a string with half a surrogate pair, a number that
is too large, an array or object that is nested too deep. And an object may
name a member twice. What becomes of such a text depends on who reads it, so a
`Source` keeps what is written. `Source.whole?` is its value for a reader that
takes everything.
-/

namespace AgentOperator.Json

inductive Source where
  /-- A part that stands for a value, whoever reads it. -/
  | value (j : Json)
  /-- A part that can be passed over, but not read. -/
  | unreadable
  | arr (items : List Source)
  /-- The members in the order in which they are written; a name that cannot be
  read is `none`. -/
  | obj (members : List (Option String × Source))

namespace Source

instance : Inhabited Source := ⟨.unreadable⟩

mutual

/-- The value of a text that is read whole; of two members with one name the
later stays. -/
def whole? : Source → Option Json
  | .value j => some j
  | .unreadable => none
  | .arr items => (wholeItems? items).map .arr
  | .obj members => (wholeMembers? members).map object

def wholeItems? : List Source → Option (List Json)
  | [] => some []
  | s :: items => do
    let j ← whole? s
    return j :: (← wholeItems? items)

def wholeMembers? : List (Option String × Source) → Option (List (String × Json))
  | [] => some []
  | (name, s) :: members => do
    let name ← name
    let j ← whole? s
    return (name, j) :: (← wholeMembers? members)

end

/-- The members of an object with their names, which all have to be readable. -/
def members? : Source → Option (List (String × Source))
  | .value (.obj ms) => some (ms.map fun (name, j) => (name, .value j))
  | .obj members => members.mapM fun (name, s) => name.map (·, s)
  | _ => none

@[simp] theorem whole?_value (j : Json) : (value j).whole? = some j := by rw [whole?]

end Source

end AgentOperator.Json
