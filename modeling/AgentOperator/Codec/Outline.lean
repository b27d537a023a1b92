import AgentOperator.Json.Source

/-!
AgentOperator.Codec.Outline — how a reader goes through a text.

A text is read part by part, and a part that nobody asks for is only passed
over. So whether a text can be read depends on which parts its reader knows,
and on what it makes of members that are written twice. An `Outline` says this
of one type. `Outline.settle` makes of a text the value that counts, along with
the values that were written but do not count: those have to be of the type as
well.
-/

namespace AgentOperator

/-- How the members of an object are read. -/
structure MemberRules where
  /-- A member may be written twice. Each writing is read, and the last counts. -/
  mayRepeat : Bool := false
  /-- Members that are not known are read too, and not passed over. -/
  readsUnknown : Bool := false
  /-- An array of the members' values may stand for the object. -/
  positional : Bool := false
deriving DecidableEq

inductive Outline where
  /-- The part is read as a whole. -/
  | whole
  | list (item : Outline)
  | dict (value : Outline)
  | record (rules : MemberRules) (members : List (String × Outline))

instance : Inhabited Outline := ⟨.whole⟩

/-! ## Settled texts -/

/-- What reading a text comes to. -/
structure Settled where
  /-- The value that counts. -/
  value : Json
  /-- Values that do not count. -/
  overwritten : List Json := []

namespace Settled

/-- The items of an array. Of what is overwritten in an item an array is made
whose other items count. -/
def ofItems : List Settled → List Json × List (List Json)
  | [] => ([], [])
  | x :: xs =>
    let (values, lists) := ofItems xs
    (x.value :: values, x.overwritten.map (· :: values) ++ lists.map (x.value :: ·))

def array (xs : List Settled) : Settled :=
  let (values, lists) := ofItems xs
  ⟨.arr values, lists.map .arr⟩

/-- What is overwritten among members: every writing of a member but its last,
and what is overwritten inside of them. -/
def overwrittenMembers : List (String × Settled) → List (String × Json)
  | [] => []
  | (name, x) :: members =>
    let values :=
      if members.any (·.1 = name) then x.value :: x.overwritten else x.overwritten
    values.map (name, ·) ++ overwrittenMembers members

/-- Drops null where a member is written again: it was as good as missing. -/
def withoutVoid : List (String × Settled) → List (String × Settled)
  | [] => []
  | (name, x) :: members =>
    if x.value = .null ∧ members.any (·.1 = name) then withoutVoid members
    else (name, x) :: withoutVoid members

def object (members : List (String × Settled)) : Settled :=
  let values := Entries.ofList (members.map fun (name, x) => (name, x.value))
  { value := .obj values
    overwritten :=
      (overwrittenMembers members).map fun (name, j) => .obj (Entries.insert name j values) }

end Settled

/-! ## Settling a text -/

namespace Outline

/-- The outline of a member, if it is read. -/
def member? (rules : MemberRules) (members : List (String × Outline)) (name : String) :
    Option Outline :=
  (members.lookup name).or (if rules.readsUnknown then some .whole else none)

/-- Whether known members are written as often as they may be. -/
def admitsRepeats (rules : MemberRules) (members : List (String × Outline))
    (written : List String) : Bool :=
  rules.mayRepeat || decide (written.filter fun name => (members.lookup name).isSome).Nodup

mutual

/-- What a reader makes of a text, if it can go through it. -/
def settle (o : Outline) : Json.Source → Option Settled
  | .value j => some { value := j }
  | .unreadable => none
  | .arr items =>
    match o with
    | .whole => (Json.Source.wholeItems? items).map fun js => { value := .arr js }
    | .list item => (settleItems [] item items).map .array
    | .record { positional := true, .. } members =>
      (settleItems (members.map (·.2)) .whole items).map .array
    | _ => none
  | .obj members =>
    match o with
    | .whole => (Json.Source.wholeMembers? members).map fun ms => { value := .object ms }
    | .dict value => (settleMembers (fun _ => some value) members).map .object
    | .record rules known =>
      match settleMembers (member? rules known) members with
      | some xs =>
        if admitsRepeats rules known (xs.map (·.1)) then some (.object (Settled.withoutVoid xs))
        else none
      | none => none
    | .list _ => none

/-- Settles items, each by the outline at its place and those behind the last
outline by `beyond`. -/
def settleItems (outlines : List Outline) (beyond : Outline) :
    List Json.Source → Option (List Settled)
  | [] => some []
  | s :: items => do
    let x ← settle (outlines.headD beyond) s
    return x :: (← settleItems outlines.tail beyond items)

/-- Settles the members that have an outline. -/
def settleMembers (outline? : String → Option Outline) :
    List (Option String × Json.Source) → Option (List (String × Settled))
  | [] => some []
  | (none, _) :: _ => none
  | (some name, s) :: members =>
    match outline? name with
    | none => settleMembers outline? members
    | some o => do
      let x ← settle o s
      return (name, x) :: (← settleMembers outline? members)

end

/-- A value is what it is, whoever reads it. -/
@[simp] theorem settle_value (o : Outline) (j : Json) :
    o.settle (.value j) = some { value := j } := by
  rw [settle]

end Outline

end AgentOperator
