import AgentOperator.Proofs.Placed

/-!
AgentOperator.Proofs.Orderly — stores that hold nothing but what the dataplane
put there.

In an orderly store every value is an object the dataplane wrote at its place,
or a deployment it wrote whose status was changed by another writer. Whatever
can be read from such a store is tidy, and bringing a component to the spec or
deleting it keeps the store orderly, whichever way it ends.
-/

namespace AgentOperator.Dataplane

open Kube (Deployment Object ObjectKey)
open Store (Place Table placeOf)

/-! ## Objects at their place -/

/-- What the dataplane puts at a place. -/
structure Held (kubelet : String) (p : Place) (o : Object) : Prop where
  place : placeOf o = p
  known : o.Known kubelet
  tidy : ∀ (c : Component) spec, c.place spec = p → c.Tidy o

/-- Values the dataplane wrote at a place, with whatever status others gave a
deployment since. -/
inductive Kept (kubelet : String) (p : Place) : Json → Prop where
  | written {o : Object} (h : Held kubelet p o) : Kept kubelet p o.encode
  | edited {d : Deployment} {j : Json} (h : Held kubelet p (.deployment d))
      (hj : j.SameBeside "status" (Deployment.codec.encode d)) : Kept kubelet p j

/-- A store of such values only. -/
def Orderly (kubelet : String) (t : Table) : Prop :=
  ∀ p j, t.get? p = some j → Kept kubelet p j

variable {kubelet : String} {p : Place} {t : Table}

theorem Held.withStatus {d : Deployment} (h : Held kubelet p (.deployment d))
    {s : Option Kube.DeploymentStatus} (hs : ∀ t, s = some t → t.Known) :
    Held kubelet p (.deployment { d with status := s }) where
  place := h.place
  known := ⟨h.known.metadata, h.known.spec, hs⟩
  tidy c spec hc := h.tidy c spec hc

/-- What can be read of a kept value is an object the dataplane would put
there. -/
theorem Kept.held {j : Json} (h : Kept kubelet p j) {o : Object}
    (ho : (Object.empty kubelet p.kind).decodeLike j = .ok o) : Held kubelet p o := by
  cases h with
  | written hheld =>
    cases hheld.place
    cases ho.symm.trans (Object.decodeLike_encode hheld.known)
    exact hheld
  | @edited d j hheld hj =>
    cases hheld.place
    obtain ⟨e, he, rfl⟩ := Except.map_eq_ok.1 ho
    obtain ⟨s, rfl, hs⟩ :=
      Deployment.eq_of_decode hheld.known hj (Kube.orUnreadable_eq_ok.1 he)
    exact hheld.withStatus hs

/-- Another writer gives a deployment another status. -/
theorem Kept.edit {i j : Json} (h : Kept kubelet p j) (hkind : p.kind = .deployment)
    (hi : i.SameBeside "status" j) : Kept kubelet p i := by
  cases h with
  | @written o hheld =>
    cases hheld.place
    cases o <;> first | cases hkind
    exact .edited hheld hi
  | edited hheld hj => exact .edited hheld (hi.trans hj)

theorem orderly_empty {t : Table} (h : ∀ p, t.get? p = none) : Orderly kubelet t := by
  intro p j hj
  rw [h p] at hj
  cases hj

theorem Orderly.put (h : Orderly kubelet t) {j : Json} (hj : Kept kubelet p j) :
    Orderly kubelet (t.put p j) := by
  intro q i hi
  rw [Table.get?_put] at hi
  split at hi
  · rename_i hpq
    cases hi
    exact hpq ▸ hj
  · exact h q i hi

theorem Orderly.erase (h : Orderly kubelet t) (p : Place) : Orderly kubelet (t.erase p) := by
  intro q i hi
  rw [Table.get?_erase] at hi
  split at hi
  · cases hi
  · exact h q i hi

theorem Orderly.placed (h : Orderly kubelet t) : Placed t := by
  intro p j hj
  cases h p j hj with
  | written hheld =>
    cases hheld.place
    exact Object.ownKey_encode hheld.known
  | edited hheld hedit =>
    cases hheld.place
    rw [ownKey_of_sameBeside hedit (by decide)]
    exact Object.ownKey_encode hheld.known

/-! ## Components -/

variable {x : Setting} {c : Component} {s : Surroundings} {spec : Agent.Spec} {opts : ApplyOptions}
  {t' : Table}

/-- What is read of a component from an orderly store. -/
theorem Orderly.held_of_stored (h : Orderly kubelet t) {o : Object}
    (ho : c.stored kubelet spec t = .ok (some o)) : Held kubelet (c.place spec) o := by
  obtain ⟨j, hj, hread⟩ := Table.get?_of_read_eq_some ho
  rw [emptyObject_kind] at hj
  exact (h _ j hj).held hread

/-- What a component wants belongs at its place. -/
theorem Orderly.held_of_wanted (h : Orderly s.kubelet t) (hopts : opts.Proper)
    {found : Option Object} {o : Object} (hread : c.stored s.kubelet spec t = .ok found)
    (hwanted : x.wanted c s spec opts found = .ok o) : Held s.kubelet (c.place spec) o := by
  refine ⟨h.placed.place_of_wanted hopts hread hwanted, known_of_wanted hopts hread hwanted, ?_⟩
  intro d spec' hplace
  cases Component.eq_of_place hplace
  refine wanted_tidy hopts hwanted ?_
  rintro observed rfl
  exact (h.held_of_stored hread).tidy _ _ rfl

theorem Applying.orderly {r : Except Error Applied} (h : Applying x c s spec opts t r t')
    (hopts : opts.Proper) (ht : Orderly s.kubelet t) : Orderly s.kubelet t' := by
  cases h with
  | written hread hwanted hchanged hfresh =>
    have hheld := ht.held_of_wanted hopts hread hwanted
    rw [hheld.place]
    exact ht.put (.written hheld)
  | _ => exact ht

theorem Deleting.orderly {r : Except Error Bool} (h : Deleting c kubelet spec t r t')
    (ht : Orderly kubelet t) : Orderly kubelet t' := by
  cases h with
  | deleted hread => exact ht.erase _
  | _ => exact ht

/-- After a component was brought to the spec it would not be written again. -/
theorem Applying.again {a : Applied} (h : Applying x c s spec opts t (.ok a) t')
    (hopts : opts.Proper) (ht : Orderly s.kubelet t) :
    opts.createOnly = true ∨ x.wanted c s spec opts (some a.object) = .ok a.object := by
  cases h with
  | kept hread honly => exact .inl honly
  | same hread honly hwanted => exact .inr hwanted
  | written hread hwanted hchanged hfresh =>
    refine .inr (wanted_again hopts hwanted ?_)
    rintro observed rfl
    exact (ht.held_of_stored hread).tidy _ _ rfl

end AgentOperator.Dataplane
