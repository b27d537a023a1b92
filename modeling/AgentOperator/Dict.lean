/-!
AgentOperator.Dict — finite maps from strings, held as a list in strictly
increasing key order.

A map has one such list, so two maps are equal as soon as they hold the same
entries (`Dict.ext_get?`), equality is decidable, and every traversal goes in
key order. The order of strings is by code point, which is also their order
as UTF-8 bytes.
-/

namespace AgentOperator

/-! ## Lists in key order -/

namespace Entries

variable {V : Type u}

/-- Keys strictly increase along the list. -/
abbrev Sorted (es : List (String × V)) : Prop :=
  es.Pairwise fun a b => a.1 < b.1

/-- Puts `v` under `k`, at its place in key order. -/
def insert (k : String) (v : V) : List (String × V) → List (String × V)
  | [] => [(k, v)]
  | (k', v') :: es =>
    if k < k' then (k, v) :: (k', v') :: es
    else if k' < k then (k', v') :: insert k v es
    else (k, v) :: es

/-- The value under `k`. -/
def find? (k : String) : List (String × V) → Option V
  | [] => none
  | (k', v) :: es => if k' = k then some v else find? k es

/-- Entries written one after the other: of two with one key the later stays. -/
def ofList (es : List (String × V)) : List (String × V) :=
  es.foldl (fun acc e => insert e.1 e.2 acc) []

theorem mem_insert {k : String} {v : V} {es : List (String × V)} {e : String × V}
    (h : e ∈ insert k v es) : e = (k, v) ∨ e ∈ es := by
  induction es with
  | nil => simpa [insert] using h
  | cons e' es ih =>
    simp only [insert] at h
    split at h
    · simpa using h
    · split at h
      · rcases List.mem_cons.1 h with rfl | h
        · simp
        · rcases ih h with rfl | h <;> simp [*]
      · rcases List.mem_cons.1 h with rfl | h <;> simp [*]

theorem Sorted.insert {k : String} {v : V} {es : List (String × V)} (h : Sorted es) :
    Sorted (insert k v es) := by
  induction es with
  | nil => simp [Sorted, Entries.insert]
  | cons e es ih =>
    obtain ⟨k', v'⟩ := e
    simp only [Sorted, List.pairwise_cons] at h
    simp only [Entries.insert]
    split
    · rename_i hlt
      refine List.pairwise_cons.2 ⟨fun e he => ?_, List.pairwise_cons.2 h⟩
      rcases List.mem_cons.1 he with rfl | he
      · exact hlt
      · exact String.lt_trans hlt (h.1 e he)
    · split
      · rename_i hlt
        refine List.pairwise_cons.2 ⟨fun e he => ?_, ih h.2⟩
        rcases mem_insert he with rfl | he
        · exact hlt
        · exact h.1 e he
      · rename_i h₁ h₂
        have hk : k = k' := String.le_antisymm (String.not_lt.1 h₂) (String.not_lt.1 h₁)
        subst hk
        exact List.pairwise_cons.2 h

theorem sorted_foldl_insert (es acc : List (String × V)) (h : Sorted acc) :
    Sorted (es.foldl (fun acc e => insert e.1 e.2 acc) acc) := by
  induction es generalizing acc with
  | nil => exact h
  | cons e es ih => exact ih _ h.insert

theorem sorted_ofList (es : List (String × V)) : Sorted (ofList es) :=
  sorted_foldl_insert es [] List.Pairwise.nil

@[simp] theorem find?_nil (k : String) : find? k ([] : List (String × V)) = none := rfl

theorem find?_eq_some {k : String} {v : V} {es : List (String × V)}
    (h : find? k es = some v) : (k, v) ∈ es := by
  induction es with
  | nil => simp at h
  | cons e es ih =>
    obtain ⟨k', v'⟩ := e
    simp only [find?] at h
    split at h
    · rename_i hk; cases hk; cases h; simp
    · exact List.mem_cons_of_mem _ (ih h)

theorem find?_of_mem {k : String} {v : V} {es : List (String × V)} (hs : Sorted es)
    (h : (k, v) ∈ es) : find? k es = some v := by
  induction es with
  | nil => simp at h
  | cons e es ih =>
    obtain ⟨k', v'⟩ := e
    rcases List.mem_cons.1 h with heq | h
    · cases heq; simp [find?]
    · have hlt := (List.pairwise_cons.1 hs).1 _ h
      have : ¬ k' = k := fun he => String.lt_irrefl _ (he ▸ hlt)
      simpa [find?, this] using ih (List.pairwise_cons.1 hs).2 h

@[simp] theorem find?_insert_self (k : String) (v : V) (es : List (String × V)) :
    find? k (insert k v es) = some v := by
  induction es with
  | nil => simp [insert, find?]
  | cons e es ih =>
    simp only [insert]
    split
    · simp [find?]
    · split
      · rename_i hlt
        have : ¬ e.1 = k := fun he => String.lt_irrefl _ (he ▸ hlt)
        simpa [find?, this] using ih
      · simp [find?]

theorem find?_insert_of_ne {k k' : String} (v : V) (es : List (String × V)) (h : k ≠ k') :
    find? k' (insert k v es) = find? k' es := by
  induction es with
  | nil => simp [insert, find?, h]
  | cons e es ih =>
    simp only [insert]
    split
    · simp [find?, h]
    · split
      · simp only [find?, ih]
      · rename_i h₁ h₂
        have hk : k = e.1 := String.le_antisymm (String.not_lt.1 h₂) (String.not_lt.1 h₁)
        simp [find?, hk ▸ h, h]

theorem find?_insert (k k' : String) (v : V) (es : List (String × V)) :
    find? k' (insert k v es) = if k = k' then some v else find? k' es := by
  split
  · rename_i h; subst h; simp
  · rename_i h; exact find?_insert_of_ne v es h

/-- Lists in key order that hold the same entries are equal. -/
theorem Sorted.ext {es fs : List (String × V)} (he : Sorted es) (hf : Sorted fs)
    (h : ∀ k, find? k es = find? k fs) : es = fs := by
  have hsub : ∀ e, e ∈ es ↔ e ∈ fs := fun (k, v) =>
    ⟨fun hm => find?_eq_some (h k ▸ find?_of_mem he hm),
     fun hm => find?_eq_some (h k ▸ find?_of_mem hf hm)⟩
  clear h
  induction es generalizing fs with
  | nil =>
    cases fs with
    | nil => rfl
    | cons f fs => exact absurd ((hsub f).2 (by simp)) (by simp)
  | cons e es ih =>
    cases fs with
    | nil => exact absurd ((hsub e).1 (by simp)) (by simp)
    | cons f fs =>
      have he' := List.pairwise_cons.1 he
      have hf' := List.pairwise_cons.1 hf
      have hef : e = f := by
        rcases List.mem_cons.1 ((hsub e).1 (by simp)) with h | h
        · exact h
        · rcases List.mem_cons.1 ((hsub f).2 (by simp)) with h' | h'
          · exact h'.symm
          · exact absurd (String.lt_trans (hf'.1 e h) (he'.1 f h')) (String.lt_irrefl _)
      subst hef
      congr 1
      refine ih he'.2 hf'.2 fun x => ⟨fun hx => ?_, fun hx => ?_⟩
      · rcases List.mem_cons.1 ((hsub x).1 (List.mem_cons_of_mem _ hx)) with h | h
        · exact absurd (h ▸ he'.1 x hx) (String.lt_irrefl _)
        · exact h
      · rcases List.mem_cons.1 ((hsub x).2 (List.mem_cons_of_mem _ hx)) with h | h
        · exact absurd (h ▸ hf'.1 x hx) (String.lt_irrefl _)
        · exact h

end Entries

/-! ## Maps -/

/-- A finite map from strings to `V`. -/
structure Dict (V : Type u) where
  entries : List (String × V)
  sorted : Entries.Sorted entries

namespace Dict

variable {V : Type u}

theorem ext_entries {a b : Dict V} (h : a.entries = b.entries) : a = b := by
  cases a; cases b; cases h; rfl

instance [DecidableEq V] : DecidableEq (Dict V) := fun a b =>
  decidable_of_iff (a.entries = b.entries) ⟨ext_entries, fun h => h ▸ rfl⟩

/-- The map without entries. -/
def empty : Dict V := ⟨[], List.Pairwise.nil⟩

instance : EmptyCollection (Dict V) := ⟨empty⟩
instance : Inhabited (Dict V) := ⟨empty⟩

/-- The value under a key. -/
def get? (d : Dict V) (k : String) : Option V := Entries.find? k d.entries

/-- Whether the key has a value. -/
def contains (d : Dict V) (k : String) : Bool := (d.get? k).isSome

/-- Writes `v` under `k`. -/
def insert (d : Dict V) (k : String) (v : V) : Dict V :=
  ⟨Entries.insert k v d.entries, d.sorted.insert⟩

/-- Drops the entry under `k`. -/
def erase (d : Dict V) (k : String) : Dict V :=
  ⟨d.entries.filter (·.1 != k), d.sorted.filter _⟩

/-- Entries written one after the other: of two with one key the later stays. -/
def ofList (es : List (String × V)) : Dict V :=
  ⟨Entries.ofList es, Entries.sorted_ofList es⟩

/-- The entries in key order. -/
def toList (d : Dict V) : List (String × V) := d.entries

def keys (d : Dict V) : List String := d.entries.map (·.1)

def values (d : Dict V) : List V := d.entries.map (·.2)

def size (d : Dict V) : Nat := d.entries.length

def isEmpty (d : Dict V) : Bool := d.entries.isEmpty

/-- `base` with every entry of `top` written over it. -/
def overlay (base top : Dict V) : Dict V :=
  top.entries.foldl (fun acc e => acc.insert e.1 e.2) base

/-- Every value replaced by its image. -/
def map {W : Type v} (f : V → W) (d : Dict V) : Dict W :=
  ⟨d.entries.map fun e => (e.1, f e.2), List.pairwise_map.2 d.sorted⟩

/-- Replaces, creates or drops the value under one key. -/
def alter (d : Dict V) (k : String) (f : Option V → Option V) : Dict V :=
  match f (d.get? k) with
  | some v => d.insert k v
  | none => d.erase k

@[simp] theorem get?_empty (k : String) : (∅ : Dict V).get? k = none := rfl

@[simp] theorem get?_insert_self (d : Dict V) (k : String) (v : V) :
    (d.insert k v).get? k = some v :=
  Entries.find?_insert_self k v d.entries

theorem get?_insert (d : Dict V) (k k' : String) (v : V) :
    (d.insert k v).get? k' = if k = k' then some v else d.get? k' :=
  Entries.find?_insert k k' v d.entries

/-- Maps that answer alike are equal. -/
theorem ext_get? {a b : Dict V} (h : ∀ k, a.get? k = b.get? k) : a = b :=
  ext_entries (a.sorted.ext b.sorted h)

end Dict

end AgentOperator
