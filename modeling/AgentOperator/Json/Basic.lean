import AgentOperator.Dict

/-!
AgentOperator.Json.Basic — JSON values.

An object's members are kept in key order, each name once, by every function
that builds one (`Json.object`, `Json.setMember`, `Json.dropMember`), so that
two objects with the same members are the same value. A number written as an
integer in the range of a 64-bit word is an integer; every other number is a
decimal and is not an integer, even when its value is whole (`443.0`, `1e3`,
`-0`). A decimal that is read is the shortest one for its double.
-/

namespace AgentOperator

/-- A JSON number: an integer, or `mantissa * 10 ^ exponent`. -/
inductive Number where
  | int (value : Int)
  | decimal (mantissa exponent : Int)
deriving DecidableEq

inductive Json where
  | null
  | bool (value : Bool)
  | num (value : Number)
  | str (value : String)
  | arr (items : List Json)
  | obj (members : List (String × Json))

namespace Json

instance : Inhabited Json := ⟨.null⟩

/-! ## Equality -/

mutual

/-- Whether two values are the same. -/
def beq : Json → Json → Bool
  | .null, .null => true
  | .bool a, .bool b => a == b
  | .num a, .num b => decide (a = b)
  | .str a, .str b => decide (a = b)
  | .arr a, .arr b => beqItems a b
  | .obj a, .obj b => beqMembers a b
  | _, _ => false

def beqItems : List Json → List Json → Bool
  | [], [] => true
  | a :: as, b :: bs => beq a b && beqItems as bs
  | _, _ => false

def beqMembers : List (String × Json) → List (String × Json) → Bool
  | [], [] => true
  | (k, a) :: as, (l, b) :: bs => decide (k = l) && beq a b && beqMembers as bs
  | _, _ => false

end

mutual

theorem beq_refl : (a : Json) → beq a a = true
  | .null => rfl
  | .bool _ => by simp [beq]
  | .num _ => by simp [beq]
  | .str _ => by simp [beq]
  | .arr a => by simpa [beq] using beqItems_refl a
  | .obj a => by simpa [beq] using beqMembers_refl a

theorem beqItems_refl : (a : List Json) → beqItems a a = true
  | [] => rfl
  | a :: as => by simp [beqItems, beq_refl a, beqItems_refl as]

theorem beqMembers_refl : (a : List (String × Json)) → beqMembers a a = true
  | [] => rfl
  | (_, a) :: as => by simp [beqMembers, beq_refl a, beqMembers_refl as]

end

mutual

theorem eq_of_beq : (a b : Json) → beq a b = true → a = b
  | .null, b, h => by cases b <;> simp_all [beq]
  | .bool _, b, h => by cases b <;> simp_all [beq]
  | .num _, b, h => by cases b <;> simp_all [beq]
  | .str _, b, h => by cases b <;> simp_all [beq]
  | .arr a, b, h => by
    cases b with
    | arr b => rw [eqItems_of_beq a b (by simpa [beq] using h)]
    | _ => simp [beq] at h
  | .obj a, b, h => by
    cases b with
    | obj b => rw [eqMembers_of_beq a b (by simpa [beq] using h)]
    | _ => simp [beq] at h

theorem eqItems_of_beq : (a b : List Json) → beqItems a b = true → a = b
  | [], b, h => by cases b <;> simp_all [beqItems]
  | a :: as, b, h => by
    cases b with
    | nil => simp [beqItems] at h
    | cons b bs =>
      simp only [beqItems, Bool.and_eq_true] at h
      rw [eq_of_beq a b h.1, eqItems_of_beq as bs h.2]

theorem eqMembers_of_beq : (a b : List (String × Json)) → beqMembers a b = true → a = b
  | [], b, h => by cases b <;> simp_all [beqMembers]
  | (k, a) :: as, b, h => by
    cases b with
    | nil => simp [beqMembers] at h
    | cons b bs =>
      obtain ⟨l, b⟩ := b
      simp only [beqMembers, Bool.and_eq_true, decide_eq_true_eq] at h
      rw [h.1.1, eq_of_beq a b h.1.2, eqMembers_of_beq as bs h.2]

end

instance : DecidableEq Json := fun a b =>
  decidable_of_iff (beq a b = true) ⟨eq_of_beq a b, fun h => h ▸ beq_refl a⟩

/-! ## Numbers and objects -/

/-- Whether a 64-bit word, with or without sign, holds an integer. -/
def fitsWord (value : Int) : Bool :=
  decide (Int64.minValue.toInt ≤ value) && decide (value < UInt64.size)

def int (value : Int) : Json := .num (.int value)

def nat (value : Nat) : Json := .num (.int value)

/-- The object with these members; of two with one name the later stays. -/
def object (members : List (String × Json)) : Json := .obj (Entries.ofList members)

/-- The members of an object. -/
def members? : Json → Option (List (String × Json))
  | .obj ms => some ms
  | _ => none

/-- A member of an object. -/
def get? (j : Json) (name : String) : Option Json :=
  j.members?.bind (Entries.find? name)

def asString? : Json → Option String
  | .str s => some s
  | _ => none

def asInt? : Json → Option Int
  | .num (.int i) => some i
  | _ => none

def asBool? : Json → Option Bool
  | .bool b => some b
  | _ => none

def asArray? : Json → Option (List Json)
  | .arr xs => some xs
  | _ => none

/-- Writes one member of an object; any other value is left alone. -/
def setMember (j : Json) (name : String) (value : Json) : Json :=
  match j with
  | .obj ms => .obj (Entries.insert name value ms)
  | j => j

/-- Drops one member of an object; any other value is left alone. -/
def dropMember (j : Json) (name : String) : Json :=
  match j with
  | .obj ms => .obj (ms.filter (·.1 != name))
  | j => j

end Json

end AgentOperator
