import AgentOperator.Codec.Described
import AgentOperator.Proofs.Readings

/-!
AgentOperator.Proofs.Variants — other writings of a value that are read as well.

A record passes over members it does not know, and where a member has a default it may be
missing. A `Variant` of a JSON value is one with whatever unknown members in its records and,
where sections may be dropped, without some that were empty. A description tolerates variants
(`Described.Tolerates`) if it reads each variant of a value that it reads, up to a relation. It
does so record by record (`Section.described_tolerates`): which members there are and how each
is found is the same for all records, so for a record of tolerant members nothing is left to
show but that their names differ.
-/

namespace AgentOperator

/-- Without the entries of one key those of the others are found as before. -/
theorem Entries.find?_filter_ne {V : Type u} {k name : String} (h : k ≠ name)
    (es : List (String × V)) : find? k (es.filter (·.1 != name)) = find? k es := by
  induction es with
  | nil => rfl
  | cons e es ih =>
    by_cases he : e.1 = name
    · have hk : e.1 ≠ k := fun hk => h (hk.symm.trans he)
      rw [List.filter_cons_of_neg (by simpa using he), find?, if_neg hk, ih]
    · rw [List.filter_cons_of_pos (by simpa using he), find?, find?, ih]

/-! ## Variants -/

/-- An object without members or an array without items. -/
def Json.isEmptyCollection : Json → Bool
  | .obj [] | .arr [] => true
  | _ => false

namespace Outline

/-- Whether values of this kind are objects or arrays. -/
def isCollection : Outline → Bool
  | .whole => false
  | _ => true

/-- Members that may be left out instead of left empty: all that are objects or arrays but for
an affinity, which is none at all when it is missing. -/
def isSection (name : String) (o : Outline) : Bool := o.isCollection && name != "affinity"

/-- `k` is `j` without the empty section at `path`. The records on the way are those that do
not let members be repeated, which leaves out Kubernetes' own. Of an array that stands for a
record only the last item can be missing. -/
inductive LeavesOut : List String → Outline → Json → Json → Prop
  | member {rules : MemberRules} {members : List (String × Outline)} {name : String} {o : Outline}
      {ms : List (String × Json)} {j : Json} (hrules : rules.mayRepeat = false)
      (ho : members.lookup name = some o) (hsection : isSection name o)
      (hj : Entries.find? name ms = some j) (hempty : j.isEmptyCollection) :
      LeavesOut [name] (.record rules members) (.obj ms) (Json.dropMember (.obj ms) name)
  | item {rules : MemberRules} {members : List (String × Outline)} {name : String} {o : Outline}
      {js : List Json} {j : Json} (hrules : rules.mayRepeat = false)
      (ho : members[js.length]? = some (name, o)) (hsection : isSection name o)
      (hempty : j.isEmptyCollection) :
      LeavesOut [name] (.record rules members) (.arr (js ++ [j])) (.arr js)
  | inMember {rules : MemberRules} {members : List (String × Outline)} {name : String}
      {path : List String} {o : Outline} {ms : List (String × Json)} {j k : Json}
      (hrules : rules.mayRepeat = false) (ho : members.lookup name = some o)
      (hj : Entries.find? name ms = some j) (h : LeavesOut path o j k) :
      LeavesOut (name :: path) (.record rules members) (.obj ms) (Json.setMember (.obj ms) name k)
  | inItem {rules : MemberRules} {members : List (String × Outline)} {name : String}
      {path : List String} {o : Outline} {js : List Json} {i : Nat} {j k : Json}
      (hrules : rules.mayRepeat = false) (ho : members[i]? = some (name, o))
      (hj : js[i]? = some j) (h : LeavesOut path o j k) :
      LeavesOut (name :: path) (.record rules members) (.arr js) (.arr (js.set i k))

mutual

/-- `k` is `j` with whatever members its records do not know and, if `drops`, without some empty
sections. The records meant are again those that do not let members be repeated. -/
inductive Variant (drops : Bool) : Outline → Json → Json → Prop
  | same {o : Outline} {j : Json} : Variant drops o j j
  | object {rules : MemberRules} {members : List (String × Outline)}
      {ms ns : List (String × Json)} (hrules : rules.mayRepeat = false)
      (h : ∀ name o, members.lookup name = some o →
        MemberVariant drops name o (Entries.find? name ms) (Entries.find? name ns)) :
      Variant drops (.record rules members) (.obj ms) (.obj ns)
  | array {rules : MemberRules} {members : List (String × Outline)} {js ks : List Json}
      (hrules : rules.mayRepeat = false) (hlength : ks.length ≤ js.length)
      (h : ∀ (i : Nat) name o, members[i]? = some (name, o) →
        MemberVariant drops name o js[i]? ks[i]?) :
      Variant drops (.record rules members) (.arr js) (.arr ks)

/-- The same for the value of a member, which is none where the member is missing. -/
inductive MemberVariant (drops : Bool) : String → Outline → Option Json → Option Json → Prop
  | same {name : String} {o : Outline} {j? : Option Json} : MemberVariant drops name o j? j?
  | inside {name : String} {o : Outline} {j k : Json} (h : Variant drops o j k) :
      MemberVariant drops name o (some j) (some k)
  | leftOut {name : String} {o : Outline} {j : Json} (hdrops : drops)
      (hsection : isSection name o) (hempty : j.isEmptyCollection) :
      MemberVariant drops name o (some j) none

end

variable {drops : Bool} {rules : MemberRules} {members : List (String × Outline)} {name : String}
  {o : Outline} {ms : List (String × Json)} {j k : Json}

theorem Variant.setMember (hrules : rules.mayRepeat = false) (ho : members.lookup name = some o)
    (hj : Entries.find? name ms = some j) (h : Variant drops o j k) :
    Variant drops (.record rules members) (.obj ms) (Json.setMember (.obj ms) name k) := by
  refine .object hrules fun other o' ho' => ?_
  rw [Entries.find?_insert]
  by_cases hother : name = other
  · subst hother
    rw [ho, Option.some.injEq] at ho'
    subst ho'
    rw [if_pos rfl, hj]
    exact .inside h
  · rw [if_neg hother]
    exact .same

/-- Adding an unknown member is a variant. -/
theorem Variant.addMember (hrules : rules.mayRepeat = false)
    (hunknown : members.lookup name = none) :
    Variant drops (.record rules members) (.obj ms) (Json.setMember (.obj ms) name k) := by
  refine .object hrules fun other o ho => ?_
  have hother : name ≠ other := by
    rintro rfl
    rw [hunknown] at ho
    cases ho
  rw [Entries.find?_insert, if_neg hother]
  exact .same

/-- Leaving out one section is a variant. -/
theorem LeavesOut.variant {path : List String} (h : LeavesOut path o j k) :
    Variant true o j k := by
  induction h with
  | @member rules members name o ms j hrules ho hsection hj hempty =>
    refine .object hrules fun other o' ho' => ?_
    by_cases hother : other = name
    · subst hother
      rw [ho, Option.some.injEq] at ho'
      subst ho'
      rw [hj, Entries.find?_eq_none (by simp)]
      exact .leftOut rfl hsection hempty
    · rw [Entries.find?_filter_ne hother]
      exact .same
  | @item rules members name o js j hrules ho hsection hempty =>
    refine .array hrules (by simp) fun i other o' ho' => ?_
    rcases Nat.lt_trichotomy i js.length with hi | hi | hi
    · rw [List.getElem?_append_left hi]
      exact .same
    · subst hi
      rw [ho, Option.some.injEq, Prod.mk.injEq] at ho'
      obtain ⟨rfl, rfl⟩ := ho'
      simpa using MemberVariant.leftOut rfl hsection hempty
    · rw [List.getElem?_eq_none (by simp; omega), List.getElem?_eq_none (Nat.le_of_lt hi)]
      exact .same
  | inMember hrules ho hj _ ih => exact .setMember hrules ho hj ih
  | @inItem rules members name path o js i j k hrules ho hj _ ih =>
    refine .array hrules (by simp) fun i' other o' ho' => ?_
    by_cases hi : i = i'
    · subst hi
      rw [ho, Option.some.injEq, Prod.mk.injEq] at ho'
      obtain ⟨rfl, rfl⟩ := ho'
      rw [hj, List.getElem?_set_self (List.getElem?_eq_some_iff.1 hj).1]
      exact .inside ih
    · rw [List.getElem?_set_ne hi]
      exact .same

/-- What is left out was an object or an array. -/
theorem MemberVariant.isCollection_of_none (h : MemberVariant drops name o (some j) none) :
    o.isCollection := by
  cases h with
  | leftOut _ hsection => simp_all [isSection]

/-- Whether variants are the values themselves: all but the records that do not let members be
repeated. -/
def isRigid : Outline → Bool
  | .record rules _ => rules.mayRepeat
  | _ => true

theorem Variant.eq_of_isRigid (ho : o.isRigid) (h : Variant drops o j k) : k = j := by
  cases h with
  | same => rfl
  | object hrules => simp [isRigid, hrules] at ho
  | array hrules => simp [isRigid, hrules] at ho

end Outline

open Outline (Variant MemberVariant isSection)

/-! ## Descriptions -/

namespace Described

variable {α : Type} {drops : Bool}

/-- Variants of what is read are read as well, as a related value. -/
class Tolerates (d : Described α) (drops : Bool) (R : outParam (α → α → Prop)) : Prop where
  decode : ∀ {j k a}, Variant drops d.codec.outline j k → d.codec.decode j = .ok a →
    ∃ b, d.codec.decode k = .ok b ∧ R a b

/-- If sections may be dropped, an empty one is read as what is related to this value. -/
class Blank (d : Described α) (drops : Bool) (R : α → α → Prop) (value : α) : Prop where
  empty : ∀ {j a}, drops → d.codec.outline.isCollection → j.isEmptyCollection →
    d.codec.decode j = .ok a → R a value

/-- Both: variants are read, and an empty one is as good as none, which stands for this value. -/
class Lenient (d : Described α) (drops : Bool) (R : outParam (α → α → Prop))
    (value : outParam α) : Prop extends d.Tolerates drops R, d.Blank drops R value

/-- Values are neither objects nor arrays. -/
class Scalar (d : Described α) : Prop where
  outline : d.codec.outline = .whole

instance : Scalar .string := ⟨rfl⟩

instance : Scalar .bool := ⟨rfl⟩

instance : Scalar .int32 := ⟨rfl⟩

instance {d : Described α} [h : Scalar d] : Scalar d.nullable := ⟨h.outline⟩

theorem tolerates_of_isRigid {d : Described α} (h : d.codec.outline.isRigid) :
    d.Tolerates drops Eq where
  decode hvariant ha := ⟨_, hvariant.eq_of_isRigid h ▸ ha, rfl⟩

instance {d : Described α} [h : Scalar d] : d.Tolerates drops Eq :=
  tolerates_of_isRigid (by rw [h.outline]; rfl)

instance {d : Described α} : d.list.Tolerates drops Eq := tolerates_of_isRigid rfl

instance {d : Described α} : d.dict.Tolerates drops Eq := tolerates_of_isRigid rfl

instance {d : Described α} [h : Scalar d] {R : α → α → Prop} {value : α} :
    d.Blank drops R value where
  empty _ hcollection := by simp [h.outline, Outline.isCollection] at hcollection

instance {d : Described α} : d.list.Blank drops Eq [] where
  empty {j a} _ _ hempty h := by
    match j with
    | .arr [] => exact (Except.ok.inj h).symm
    | .obj [] => cases h

instance {d : Described α} : d.dict.Blank drops Eq ∅ where
  empty {j a} _ _ hempty h := by
    match j with
    | .arr [] => cases h
    | .obj [] => exact (Except.ok.inj h).symm

end Described

/-! ## Records -/

namespace Section

variable {σ τ α β : Type} {drops : Bool} {name : String}

/-- Each member is found in `look'` as it is in `look`, up to variants. -/
def Agrees (drops : Bool) (slots : List Slot) (look look' : String → Option Json) : Prop :=
  ∀ s ∈ slots, MemberVariant drops s.name s.outline (look s.name) (look' s.name)

/-- Variants of the members that are read are read as well, as a related value, and members
that may be left out may also be left out at the end of an array. -/
class Tolerates (s : Section σ α) (drops : Bool) (R : outParam (α → α → Prop)) : Prop where
  read : ∀ {look look' a}, Agrees drops s.record.slots look look' →
    s.record.read look = .ok a → ∃ b, s.record.read look' = .ok b ∧ R a b
  omissible : ∀ t ∈ s.record.slots, t.outline.isCollection → t.omissible

theorem map_tolerates {s : Section σ α} {f : α → β} {Q : α → α → Prop} {R : β → β → Prop}
    [h : s.Tolerates drops Q] (hf : ∀ a b, Q a b → R (f a) (f b)) :
    (f <$> s).Tolerates drops R where
  read hagrees hread := by
    obtain ⟨a, ha, rfl⟩ := Except.map_eq_ok.1 hread
    obtain ⟨b, hb, hab⟩ := h.read hagrees ha
    exact ⟨f b, Except.map_eq_ok.2 ⟨b, hb, rfl⟩, hf a b hab⟩
  omissible := h.omissible

theorem seq_tolerates {f : Section σ (α → β)} {s : Section σ α} {Q : α → α → Prop}
    {R : β → β → Prop} [h : s.Tolerates drops Q]
    (hf : f.Tolerates drops fun g g' => ∀ a b, Q a b → R (g a) (g' b)) :
    (f <*> s).Tolerates drops R where
  read hagrees hread := by
    obtain ⟨g, a, hg, ha, rfl⟩ := Record.seq_read_eq_ok.1 hread
    obtain ⟨g', hg', hgg'⟩ := hf.read (fun t ht => hagrees t (List.mem_append_left _ ht)) hg
    obtain ⟨b, hb, hab⟩ := h.read (fun t ht => hagrees t (List.mem_append_right _ ht)) ha
    exact ⟨g' b, Record.seq_read_eq_ok.2 ⟨g', b, hg', hb, rfl⟩, hgg' a b hab⟩
  omissible t ht := by
    rcases List.mem_append.1 ht with ht | ht
    · exact hf.omissible t ht
    · exact h.omissible t ht

instance {s : Section σ α} {f : α → β} [s.Tolerates drops Eq] : (f <$> s).Tolerates drops Eq :=
  map_tolerates fun _ _ => congrArg f

instance {f : Section σ (α → β)} {s : Section σ α} [hf : f.Tolerates drops Eq]
    [s.Tolerates drops Eq] : (f <*> s).Tolerates drops Eq := by
  refine seq_tolerates (Q := Eq) ⟨fun hagrees hg => ?_, hf.omissible⟩
  obtain ⟨g', hg', rfl⟩ := hf.read hagrees hg
  exact ⟨_, hg', fun _ _ => congrArg _⟩

instance {get : σ → τ} {s : Section τ α} {R : α → α → Prop} [h : s.Tolerates drops R] :
    (within get s).Tolerates drops R :=
  ⟨h.read, h.omissible⟩

theorem decodeMember_tolerates {d : Described α} {R : α → α → Prop} [h : d.Tolerates drops R]
    {j k : Json} {a : α} (hvariant : Variant drops d.codec.outline j k)
    (ha : Record.decodeMember name d.codec j = .ok a) :
    ∃ b, Record.decodeMember name d.codec k = .ok b ∧ R a b := by
  obtain ⟨b, hb, hab⟩ := h.decode hvariant (Record.decodeMember_eq_ok.1 ha)
  exact ⟨b, Record.decodeMember_eq_ok.2 hb, hab⟩

theorem field_tolerates {get : σ → α} {d : Described α} {value : α} {R : α → α → Prop}
    [Std.Refl R] [d.Tolerates drops R]
    (hdropped : ∀ j a, drops → isSection name d.codec.outline → j.isEmptyCollection →
      d.codec.decode j = .ok a → R a value) :
    (field name get d value).Tolerates drops R where
  read {look look' a} hagrees hread := by
    have hmember : MemberVariant drops name d.codec.outline (look name) (look' name) :=
      hagrees _ (List.mem_singleton_self _)
    simp only [field, Record.defaulted] at hread ⊢
    generalize look name = j?, look' name = k? at hread hmember
    cases hmember with
    | same => exact ⟨a, hread, Std.Refl.refl a⟩
    | inside hvariant => exact decodeMember_tolerates hvariant hread
    | @leftOut _ _ j hdrops hsection hempty =>
      exact ⟨value, rfl, hdropped j a hdrops hsection hempty (Record.decodeMember_eq_ok.1 hread)⟩
  omissible := by simp [field, Record.defaulted]

instance {get : σ → α} {d : Described α} {value : α} {R : α → α → Prop} [Std.Refl R]
    [d.Tolerates drops R] [h : d.Blank drops R value] :
    (field name get d value).Tolerates drops R :=
  field_tolerates fun _ _ hdrops hsection => h.empty hdrops (by simp_all [isSection])

instance {get : σ → α} {d : Described α} {value : α} [d.Tolerates drops Eq] :
    (field "affinity" get d value).Tolerates drops Eq :=
  field_tolerates fun _ _ _ hsection => by simp [isSection] at hsection

instance {get : σ → α} {d : Described α} [h : d.Scalar] :
    (mandatory name get d).Tolerates drops Eq where
  read {look look' a} hagrees hread := by
    have hmember : MemberVariant drops name d.codec.outline (look name) (look' name) :=
      hagrees _ (List.mem_singleton_self _)
    simp only [mandatory, Record.mandatory] at hread ⊢
    generalize look name = j?, look' name = k? at hread hmember
    cases hmember with
    | same => exact ⟨a, hread, rfl⟩
    | inside hvariant => exact decodeMember_tolerates hvariant hread
    | leftOut _ hsection => simp [isSection, h.outline, Outline.isCollection] at hsection
  omissible := by simp [mandatory, Record.mandatory, h.outline, Outline.isCollection]

/-! ## Whole objects and arrays -/

/-- Values stand for the members at their places, and only members that may be left out are
behind the last of them. -/
theorem assign_eq_ok {slots : List Slot} {js : List Json} {ms : List (String × Json)} :
    Record.assign slots js = .ok ms ↔ js.length ≤ slots.length ∧
      (∀ t ∈ slots.drop js.length, t.omissible) ∧ ms = (slots.map (·.name)).zip js := by
  induction slots generalizing js ms with
  | nil =>
    cases js with
    | nil =>
      constructor
      · rintro ⟨⟩
        simp
      · rintro ⟨-, -, rfl⟩
        rfl
    | cons j js => simp [Record.assign]
  | cons t slots ih =>
    cases js with
    | nil =>
      rw [Record.assign]
      split
      · rename_i ht
        rw [ih]
        simp [ht]
      · rename_i ht
        simp [ht]
    | cons j js =>
      simp only [Record.assign, Except.map_eq_ok, ih]
      constructor
      · rintro ⟨ns, ⟨hlength, homissible, rfl⟩, rfl⟩
        exact ⟨Nat.succ_le_succ hlength, homissible, rfl⟩
      · rintro ⟨hlength, homissible, rfl⟩
        exact ⟨_, ⟨Nat.le_of_succ_le_succ hlength, homissible, rfl⟩, rfl⟩

/-- Among members in their order each is found at its place. -/
theorem find?_zip {names : List String} (hnodup : names.Nodup) (js : List Json) {i : Nat}
    {name : String} (hi : names[i]? = some name) :
    Entries.find? name (names.zip js) = js[i]? := by
  induction names generalizing js i with
  | nil => cases hi
  | cons first names ih =>
    rw [List.nodup_cons] at hnodup
    cases js with
    | nil => simp
    | cons j js =>
      cases i with
      | zero =>
        cases hi
        simp [Entries.find?]
      | succ i =>
        have hmem : name ∈ names := List.mem_of_getElem? hi
        have hne : first ≠ name := fun h => hnodup.1 (h ▸ hmem)
        simpa [Entries.find?, hne] using ih hnodup.2 js hi

theorem lookup_outlines {slots : List Slot} (hnodup : (slots.map (·.name)).Nodup) {t : Slot}
    (ht : t ∈ slots) : (slots.map fun s => (s.name, s.outline)).lookup t.name = some t.outline := by
  induction slots with
  | nil => cases ht
  | cons first slots ih =>
    rw [List.map_cons, List.nodup_cons] at hnodup
    rw [List.map_cons, List.lookup_cons]
    rcases List.mem_cons.1 ht with rfl | ht
    · simp
    · have hne : t.name ≠ first.name := fun h => hnodup.1 (h ▸ List.mem_map_of_mem ht)
      rw [beq_false_of_ne hne]
      exact ih hnodup.2 ht

/-- Values at the places of members are found under their names. -/
theorem agrees_zip {slots : List Slot} (hnodup : (slots.map (·.name)).Nodup) {js ks : List Json}
    (hitems : ∀ (i : Nat) name o, (slots.map fun s => (s.name, s.outline))[i]? = some (name, o) →
      MemberVariant drops name o js[i]? ks[i]?) :
    Agrees drops slots (fun name => Entries.find? name ((slots.map (·.name)).zip js))
      fun name => Entries.find? name ((slots.map (·.name)).zip ks) := by
  intro t ht
  obtain ⟨i, hi⟩ := List.mem_iff_getElem?.1 ht
  have hname : (slots.map (·.name))[i]? = some t.name := by simp [hi]
  have hitem := hitems i t.name t.outline (by simp [hi])
  simpa only [find?_zip hnodup _ hname] using hitem

/-- Where values stand for members, those without the last sections do as well. -/
theorem assign_shorter {slots : List Slot}
    (homissible : ∀ t ∈ slots, t.outline.isCollection → t.omissible) {js ks : List Json}
    (hlength : ks.length ≤ js.length)
    (hitems : ∀ (i : Nat) name o, (slots.map fun s => (s.name, s.outline))[i]? = some (name, o) →
      MemberVariant drops name o js[i]? ks[i]?)
    {ms : List (String × Json)} (h : Record.assign slots js = .ok ms) :
    Record.assign slots ks = .ok ((slots.map (·.name)).zip ks) := by
  obtain ⟨hjs, hrest, rfl⟩ := assign_eq_ok.1 h
  refine assign_eq_ok.2 ⟨Nat.le_trans hlength hjs, fun t ht => ?_, rfl⟩
  obtain ⟨i, hi⟩ := List.mem_iff_getElem?.1 ht
  rw [List.getElem?_drop] at hi
  -- A slot behind the shorter list is behind the longer one too, or its value was left out.
  by_cases hbehind : js.length ≤ ks.length + i
  · have hdrop : (slots.drop js.length)[ks.length + i - js.length]? = some t := by
      rw [List.getElem?_drop, Nat.add_sub_cancel' hbehind, hi]
    exact hrest t (List.mem_of_getElem? hdrop)
  · have hitem := hitems (ks.length + i) t.name t.outline (by simp [hi])
    rw [List.getElem?_eq_getElem (Nat.not_le.1 hbehind),
      List.getElem?_eq_none (Nat.le_add_right _ _)] at hitem
    exact homissible t (List.mem_of_getElem? hi) hitem.isCollection_of_none

theorem decodeObject_tolerates {s : Section α α} {R : α → α → Prop} [Std.Refl R]
    (h : s.Tolerates drops R) (hnodup : s.record.names.Nodup) {rules : MemberRules} {j k : Json}
    {a : α} (hvariant : Variant drops (.record rules s.record.outlines) j k)
    (hread : s.record.decodeObject j = .ok a) :
    ∃ b, s.record.decodeObject k = .ok b ∧ R a b := by
  cases hvariant with
  | same => exact ⟨a, hread, Std.Refl.refl a⟩
  | object _ hmembers =>
    exact h.read (fun t ht => hmembers t.name t.outline (lookup_outlines hnodup ht)) hread
  | array => cases hread

/-- A record whose members tolerate variants does so itself. -/
theorem described_tolerates {s : Section α α} {R : α → α → Prop} [Std.Refl R]
    (h : s.Tolerates drops R) (hnodup : s.record.names.Nodup) :
    s.described.Tolerates drops R where
  decode {j k a} hvariant hread := by
    cases hvariant with
    | same => exact ⟨a, hread, Std.Refl.refl a⟩
    | object hrules hmembers =>
      exact decodeObject_tolerates h hnodup (.object hrules hmembers) hread
    | array _ hlength hitems =>
      obtain ⟨ms, hms, hread⟩ := Except.bind_eq_ok.1 hread
      have hassign := assign_shorter h.omissible hlength hitems hms
      obtain ⟨-, -, rfl⟩ := assign_eq_ok.1 hms
      obtain ⟨b, hb, hab⟩ := h.read (agrees_zip hnodup hitems) hread
      exact ⟨b, Except.bind_eq_ok.2 ⟨_, hassign, hb⟩, hab⟩

/-- Of an empty object or array it reads no member. -/
theorem described_lenient {s : Section α α} {R : α → α → Prop} [Std.Refl R] {value : α}
    (h : s.Tolerates drops R) (hnodup : s.record.names.Nodup)
    (hvalue : s.record.read (fun _ => none) = .ok value) :
    s.described.Lenient drops R value where
  toTolerates := described_tolerates h hnodup
  toBlank.empty {j a} _ _ hempty hread := by
    match j with
    | .obj [] =>
      cases hvalue.symm.trans hread
      exact Std.Refl.refl _
    | .arr [] =>
      obtain ⟨ms, hms, hread⟩ := Except.bind_eq_ok.1 hread
      obtain ⟨-, -, rfl⟩ := assign_eq_ok.1 hms
      rw [List.zip_nil_right] at hread
      cases hvalue.symm.trans hread
      exact Std.Refl.refl _

theorem describedOpenly_lenient {s : Section α α} {R : α → α → Prop} [Std.Refl R] {value : α}
    (h : s.Tolerates drops R) (hnodup : s.record.names.Nodup)
    (hvalue : s.record.read (fun _ => none) = .ok value) :
    s.describedOpenly.Lenient drops R value where
  toTolerates := ⟨decodeObject_tolerates h hnodup⟩
  toBlank.empty {j a} _ _ hempty hread := by
    match j with
    | .obj [] =>
      cases hvalue.symm.trans hread
      exact Std.Refl.refl _
    | .arr [] => cases hread

end Section

end AgentOperator
