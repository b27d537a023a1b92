import AgentOperator.Proofs.Readings
import AgentOperator.Proofs.Wanted

/-!
AgentOperator.Proofs.Placed — stores in which every object is under its own key.

What is stored may be of any content: if a component can be read at all, the
object that was read is at the component's place, and so is the object it is
brought to. So a component that is brought to the spec, or deleted, is the only
one that changes, however that ends and whatever others wrote before.
-/

namespace AgentOperator.Dataplane

open Kube (Object ObjectKey ownKey)
open Store (Place Table placeOf)

/-! ## Places of components -/

theorem Component.key_name (c : Component) (spec : Agent.Spec) : (c.key spec).name = c.objectName := by
  unfold key
  split <;> rfl

/-- No two components have objects of one kind and name. -/
theorem Component.eq_of_kind_of_objectName {c d : Component} (hkind : c.kind = d.kind)
    (hname : c.objectName = d.objectName) : c = d := by
  cases c <;> cases d <;> first
    | rfl
    | exact absurd hkind (by decide)
    | exact absurd hname (by decide)

/-- A place belongs to one component, under whichever spec. -/
theorem Component.eq_of_place {c d : Component} {spec spec' : Agent.Spec}
    (h : c.place spec = d.place spec') : c = d := by
  obtain ⟨hkind, hkey⟩ := Place.mk.inj h
  refine eq_of_kind_of_objectName hkind ?_
  rw [← c.key_name spec, ← d.key_name spec', hkey]

theorem Component.objectName_ne_empty (c : Component) : c.objectName ≠ "" := by
  cases c <;> decide

/-! ## Stores -/

/-- Every value is stored under the key that it gives itself. -/
def Placed (t : Table) : Prop := ∀ p j, t.get? p = some j → ownKey j = p.key

variable {kubelet : String} {p : Place} {t t' : Table}

theorem placed_empty : Placed {} := by
  intro p j hj
  cases hj

theorem Placed.put (h : Placed t) {j : Json} (hj : ownKey j = p.key) : Placed (t.put p j) := by
  intro q i hi
  rw [Table.get?_put] at hi
  split at hi
  · rename_i hpq
    cases hi
    exact hpq ▸ hj
  · exact h q i hi

theorem Placed.erase (h : Placed t) (p : Place) : Placed (t.erase p) := by
  intro q i hi
  rw [Table.get?_erase] at hi
  split at hi
  · cases hi
  · exact h q i hi

/-- Another member of a value is nothing to its key. -/
theorem ownKey_of_sameBeside {name : String} {i j : Json} (h : i.SameBeside name j)
    (hname : name ≠ "metadata") : ownKey i = ownKey j := by
  obtain ⟨ms, ns, rfl, rfl, hsame⟩ := h
  have hmeta : (Json.obj ms).get? "metadata" = (Json.obj ns).get? "metadata" :=
    hsame "metadata" hname.symm
  rw [ownKey, ownKey, hmeta]

/-! ## What is read and what is wanted -/

variable {x : Setting} {c : Component} {s : Surroundings} {spec : Agent.Spec} {opts : ApplyOptions}

/-- What was read of a component can be written and read again. -/
theorem known_of_stored {o : Object} (h : c.stored kubelet spec t = .ok (some o)) :
    o.Known kubelet := by
  obtain ⟨j, -, hread⟩ := Table.get?_of_read_eq_some h
  exact Object.known_of_decodeLike hread

theorem known_of_wanted (hopts : opts.Proper) {found : Option Object} {o : Object}
    (hread : c.stored s.kubelet spec t = .ok found)
    (hwanted : x.wanted c s spec opts found = .ok o) : o.Known s.kubelet := by
  refine wanted_known hopts hwanted ?_
  rintro observed rfl
  exact known_of_stored hread

theorem Placed.place_of_stored (h : Placed t) {o : Object}
    (ho : c.stored kubelet spec t = .ok (some o)) : placeOf o = c.place spec := by
  obtain ⟨j, hj, hread⟩ := Table.get?_of_read_eq_some ho
  rw [emptyObject_kind] at hj
  have hkey : ownKey j = c.key spec := h _ j hj
  have hname : (ownKey j).name ≠ "" := by
    rw [hkey, c.key_name]
    exact c.objectName_ne_empty
  rw [placeOf, stored_kind ho, Object.key_of_decodeLike hread hname, hkey]
  rfl

theorem known_named {key : ObjectKey} {o : Object} (h : o.Known kubelet) :
    (named key o).Known kubelet := by
  have hmeta := known_metadata h
  exact known_withMetadata h ⟨hmeta.deletion, hmeta.rest⟩

/-- An object that was given a key is written under it. -/
theorem ownKey_named {key : ObjectKey} {o : Object} (h : o.Known kubelet) :
    ownKey (named key o).encode = key := by
  rw [Object.ownKey_encode (known_named h), Object.key, named, metadata_withMetadata]
  rfl

/-- What a component wants belongs at its place. -/
theorem Placed.place_of_wanted (h : Placed t) (hopts : opts.Proper) {found : Option Object}
    {o : Object} (hread : c.stored s.kubelet spec t = .ok found)
    (hwanted : x.wanted c s spec opts found = .ok o) : placeOf o = c.place spec := by
  rw [placeOf, wanted_kind hwanted, wanted_key hopts hwanted, Component.place, Place.mk.injEq]
  refine ⟨rfl, ?_⟩
  cases found with
  | none => rfl
  | some observed => exact congrArg Place.key (h.place_of_stored hread)

/-- An object that is known is read where it was written. -/
theorem stored_of_encode {o : Object} (hknown : o.Known kubelet) (hkind : o.kind = c.kind)
    (ho : t.get? (c.place spec) = some o.encode) : c.stored kubelet spec t = .ok (some o) := by
  have hread := Object.decodeLike_encode hknown
  rw [hkind] at hread
  unfold Component.stored
  rw [Table.read_of_some (j := o.encode) (by rwa [emptyObject_kind]), Component.emptyObject, hread]
  rfl

/-! ## Bringing a component to the spec -/

theorem Applying.placed {r : Except Error Applied} (h : Applying x c s spec opts t r t')
    (hopts : opts.Proper) (ht : Placed t) : Placed t' := by
  cases h with
  | written hread hwanted hchanged hfresh =>
    exact ht.put (Object.ownKey_encode (known_of_wanted hopts hread hwanted))
  | _ => exact ht

/-- Bringing a component to the spec leaves all others alone. -/
theorem Applying.get?_of_ne {r : Except Error Applied} (h : Applying x c s spec opts t r t')
    (hopts : opts.Proper) (ht : Placed t) (hp : p ≠ c.place spec) : t'.get? p = t.get? p := by
  cases h with
  | written hread hwanted hchanged hfresh =>
    rw [ht.place_of_wanted hopts hread hwanted, Table.get?_put, if_neg hp.symm]
  | _ => rfl

/-- A component that was brought to the spec is stored as it was answered. -/
theorem Applying.stored_after {a : Applied} (h : Applying x c s spec opts t (.ok a) t')
    (hopts : opts.Proper) (ht : Placed t) : c.stored s.kubelet spec t' = .ok (some a.object) := by
  cases h with
  | kept hread honly => exact hread
  | same hread honly hwanted => exact hread
  | written hread hwanted hchanged hfresh =>
    refine stored_of_encode (known_of_wanted hopts hread hwanted) (wanted_kind hwanted) ?_
    rw [ht.place_of_wanted hopts hread hwanted, Table.get?_put, if_pos rfl]

/-- What is stored afterwards was stored before, or is what was wanted. -/
theorem Applying.get?_eq_some {r : Except Error Applied} (h : Applying x c s spec opts t r t')
    {j : Json} (hj : t'.get? p = some j) :
    t.get? p = some j ∨ ∃ found o, c.stored s.kubelet spec t = .ok found ∧
      x.wanted c s spec opts found = .ok o ∧ placeOf o = p ∧ o.encode = j := by
  cases h with
  | @written found o hread hwanted hchanged hfresh =>
    rw [Table.get?_put] at hj
    split at hj
    · rename_i hplace
      cases hj
      exact .inr ⟨found, o, hread, hwanted, hplace, rfl⟩
    · exact .inl hj
  | _ => exact .inl hj

/-- Nothing that is stored is taken away. -/
theorem Applying.isSome_get? {r : Except Error Applied} (h : Applying x c s spec opts t r t')
    (hp : (t.get? p).isSome = true) : (t'.get? p).isSome = true := by
  cases h with
  | written hread hwanted hchanged hfresh =>
    rw [Table.get?_put]
    split
    · rfl
    · exact hp
  | _ => exact hp

/-- What is only made anew stays as it is once it is there. -/
theorem Applying.get?_of_createOnly {r : Except Error Applied}
    (h : Applying x c s spec opts t r t') (hopts : opts.Proper) (ht : Placed t)
    (honly : opts.createOnly = true) (hp : (t.get? p).isSome = true) : t'.get? p = t.get? p := by
  cases h with
  | written hread hwanted hchanged hfresh =>
    have hnone := hfresh honly
    subst hnone
    have habsent := Table.get?_of_read_eq_none hread
    rw [emptyObject_kind] at habsent
    refine Table.get?_put .. |>.trans (if_neg ?_)
    rintro rfl
    rw [ht.place_of_wanted hopts hread hwanted] at hp
    cases hp.symm.trans (congrArg Option.isSome habsent)
  | _ => rfl

/-! ## Deleting a component -/

theorem Deleting.placed {r : Except Error Bool} (h : Deleting c kubelet spec t r t')
    (ht : Placed t) : Placed t' := by
  cases h with
  | deleted hread => exact ht.erase _
  | _ => exact ht

theorem Deleting.get?_of_ne {r : Except Error Bool} (h : Deleting c kubelet spec t r t')
    (ht : Placed t) (hp : p ≠ c.place spec) : t'.get? p = t.get? p := by
  cases h with
  | deleted hread => rw [ht.place_of_stored hread, Table.get?_erase, if_neg hp.symm]
  | _ => rfl

theorem Deleting.get?_eq_some {r : Except Error Bool} (h : Deleting c kubelet spec t r t')
    {j : Json} (hj : t'.get? p = some j) : t.get? p = some j := by
  cases h with
  | deleted hread =>
    rw [Table.get?_erase] at hj
    split at hj
    · cases hj
    · exact hj
  | _ => exact hj

theorem Deleting.absent_after {deleted : Bool} (h : Deleting c kubelet spec t (.ok deleted) t')
    (ht : Placed t) : t'.get? (c.place spec) = none := by
  cases h with
  | absent hread =>
    have hnone := Table.get?_of_read_eq_none hread
    rwa [emptyObject_kind] at hnone
  | deleted hread => rw [ht.place_of_stored hread, Table.get?_erase, if_pos rfl]

end AgentOperator.Dataplane
