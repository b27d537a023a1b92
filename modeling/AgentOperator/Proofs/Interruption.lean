import AgentOperator.Proofs.Inventory

/-!
AgentOperator.Proofs.Interruption — what holds of the store between any two
calls.

The dataplane is worked on by turns (`Turn`): passes and cleanups, each of which
may be cut off before any of its requests, and what others write in between. All
that a pass does, however far it comes, is to go by steps. So what a step
preserves, and what others preserve, holds of every store that turns lead to
(`Turns.preserves`).

That no stored webhook is adrift is of that kind (`Turns.moored`). A webhook is
written while the enforcer it leads to is hosted, and what it was hosted by is
not taken away again.
-/

namespace AgentOperator.Dataplane

open Kube (Kind Object Webhook)
open Pass
open Store (Place Table)

variable {α : Type} {x : Setting} {spec : Agent.Spec} {cs : List Component} {p : Place}
  {t t' u : Table} {Others : Table → Table → Prop} {space : String} {w : Webhook}

/-! ## Turns -/

/-- Work on the dataplane, whatever it is given and wherever it is cut off, or what
others do to the store. -/
inductive Turn (Others : Table → Table → Prop) (t : Table) : Table → Prop where
  | pass {u : Table} (x : Setting) (m : Memory) (spec : Agent.Spec)
      (registry : RegistryCredentials) {setOwner : Option OwnerSetter}
      (hopts : ApplyOptions.Proper { setOwner })
      (hcut : x.Cut ((applyDesiredState spec registry setOwner).run.run m) t u) : Turn Others t u
  | cleanup {u : Table} (x : Setting) (m : Memory) (spec : Agent.Spec)
      (hcut : x.Cut ((deleteClusterScoped spec).run.run m) t u) : Turn Others t u
  | others {u : Table} (h : Others t u) : Turn Others t u

def Turns (Others : Table → Table → Prop) : Table → Table → Prop :=
  Relation.ReflTransGen (Turn Others)

/-- Wherever a pass is cut off, it went by steps. -/
theorem Pass.Treads.cut {P : Table → Prop} {f : Pass α} {Q : α → Table → Prop} {m : Memory}
    (h : Treads x spec cs P f Q) (ht : Placed t) (hP : P t) (hcut : x.Cut (f.run.run m) t u) :
    Steps spec cs t u := by
  rcases hcut with ⟨v, hv, rfl⟩ | rfl
  · exact (h.moment (w := ⟨t, []⟩) ht hP v hv).1
  · exact (h.after (w := ⟨t, []⟩) ht hP rfl).1

theorem Turn.steps (h : Turn Others t u) (ht : Placed t) :
    (∃ spec, Steps spec Component.all t u) ∨ Others t u := by
  cases h with
  | pass x m spec registry hopts hcut =>
    exact .inl ⟨spec, (treads_applyDesiredState (P := fun _ => True) hopts).cut ht trivial hcut⟩
  | cleanup x m spec hcut =>
    exact .inl ⟨spec, (treads_deleteClusterScoped (P := fun _ => True)).cut ht trivial hcut⟩
  | others h => exact .inr h

/-- What one step preserves on placed stores, and others do, holds after all turns. -/
theorem Turns.preserves {J : Table → Prop} (h : Turns Others t u)
    (hstep : ∀ {spec u v}, Placed u → Step spec Component.all u v → J u → J v)
    (hothers : ∀ {u v}, Placed u → Others u v → J u → Placed v ∧ J v) (ht : Placed t) (hj : J t) :
    Placed u ∧ J u := by
  induction h with
  | refl => exact ⟨ht, hj⟩
  | tail _ hlast ih =>
    rcases hlast.steps ih.1 with ⟨spec, hsteps⟩ | hedit
    · exact hsteps.preserves hstep ih.1 ih.2
    · exact hothers ih.1 hedit ih.2

theorem Turns.placed (h : Turns Others t u)
    (hothers : ∀ {u v}, Placed u → Others u v → Placed v) (ht : Placed t) : Placed u :=
  (h.preserves (J := fun _ => True) (fun _ _ _ => trivial)
    (fun hu hedit _ => ⟨hothers hu hedit, trivial⟩) ht trivial).1

/-! ## Webhooks that are moored -/

/-- What is stored is a webhook configuration each of whose entries leads to an
enforcer that is stored, and trusts the authority of its certificate. -/
def Moored (t : Table) (kind : Kind) (j : Json) : Prop :=
  ∃ kubelet o, (Object.empty kubelet kind).decodeLike j = .ok o ∧ o.encode = j ∧
    ∀ w ∈ o.entries, ∃ space, Anchored t space w

/-- Every webhook configuration that is stored is moored. -/
def NoneAdrift (t : Table) : Prop :=
  ∀ p j, p.kind ∈ webhookKinds → t.get? p = some j → Moored t p.kind j

theorem Moored.imp {kind : Kind} {j : Json} (h : Moored t kind j)
    (hosted : ∀ {space ca}, Hosted t space ca → Hosted t' space ca) : Moored t' kind j := by
  obtain ⟨kubelet, o, hread, hencode, hanchored⟩ := h
  refine ⟨kubelet, o, hread, hencode, fun w hw => ?_⟩
  obtain ⟨space, ca, hleads, h⟩ := hanchored w hw
  exact ⟨space, ca, hleads, hosted h⟩

theorem mem_webhooks_of_kind {c : Component} (h : c.kind ∈ webhookKinds) : c ∈ webhooks := by
  revert h
  cases c <;> decide

/-- What a step wrote of a webhook leads to the enforcer it was given, and that is
still hosted. -/
theorem NoneAdrift.step (h : NoneAdrift t) (hstep : Step spec cs t t') (ht : Placed t) :
    NoneAdrift t' := by
  intro p j hp hj
  have hosted {space : String} {ca : Bytes} (hosted : Hosted t space ca) : Hosted t' space ca :=
    hosted.step hstep ht
  cases hstep with
  | @apply x c s opts r t' hc happly hopts honly hleads =>
    rcases happly.get?_eq_some hj with hold | ⟨found, o, hread, hwanted, rfl, rfl⟩
    · exact (h p j hp hold).imp hosted
    · have hkind : c.kind ∈ webhookKinds := wanted_kind hwanted ▸ hp
      have hc := mem_webhooks_of_kind hkind
      obtain ⟨tls, htls, hosted₀⟩ := hleads hc
      have hread' := Object.decodeLike_encode (known_of_wanted hopts hread hwanted)
      refine ⟨s.kubelet, o, hread', rfl, fun w hw => ⟨spec.namespace, tls.caCert, ?_, hosted hosted₀⟩⟩
      exact leads_of_wanted hc htls hopts hwanted w hw
  | delete hc hdelete henforcer => exact (h p j hp (hdelete.get?_eq_some hj)).imp hosted

/-! ## Others who write statuses -/

/-- Another writer changes the status of a deployment. -/
inductive StatusEdit (t : Table) : Table → Prop where
  | edit {p : Place} {i j : Json} (hkind : p.kind = .deployment) (hj : t.get? p = some j)
      (hi : i.SameBeside "status" j) : StatusEdit t (t.put p i)

theorem StatusEdit.placed (h : StatusEdit t u) (ht : Placed t) : Placed u := by
  cases h with
  | edit hkind hj hi =>
    refine ht.put ?_
    rw [ownKey_of_sameBeside hi (by decide)]
    exact ht _ _ hj

theorem StatusEdit.get?_of_kind_ne (h : StatusEdit t u) (hp : p.kind ≠ .deployment) :
    u.get? p = t.get? p := by
  cases h with
  | edit hkind hj hi =>
    rw [Table.get?_put, if_neg]
    rintro rfl
    exact hp hkind

theorem StatusEdit.hosted (h : StatusEdit t u) {ca : Bytes} (hosted : Hosted t space ca) :
    Hosted u space ca := by
  obtain ⟨hservice, hdeployment, j, secret, hj, hsecret⟩ := hosted
  refine ⟨?_, ?_, j, secret, ?_, hsecret⟩
  · rw [h.get?_of_kind_ne (by simp)]
    exact hservice
  · cases h with
    | edit hkind hj hi =>
      rw [Table.get?_put]
      split
      · rfl
      · exact hdeployment
  · rw [h.get?_of_kind_ne (by simp)]
    exact hj

theorem StatusEdit.noneAdrift (h : StatusEdit t u) (ht : NoneAdrift t) : NoneAdrift u := by
  intro p j hp hj
  have hkind : p.kind ≠ .deployment := fun hkind => absurd (hkind ▸ hp) (by decide)
  rw [h.get?_of_kind_ne hkind] at hj
  exact (ht p j hp hj).imp h.hosted

/-- **No webhook is ever adrift.** Whatever passes and cleanups were made from the
empty store on, wherever they were cut off, and whatever others wrote into the
status of deployments, every webhook configuration that is stored leads to an
enforcer that is stored and trusts the authority of the certificate beside it. -/
theorem Turns.moored (h : Turns StatusEdit {} t) : NoneAdrift t := by
  have hempty : NoneAdrift {} := by
    intro p j _ hj
    cases hj
  refine (h.preserves (J := NoneAdrift) (fun hu hstep hj => hj.step hstep hu) ?_ placed_empty hempty).2
  intro u v hu hedit hj
  exact ⟨hedit.placed hu, hedit.noneAdrift hj⟩

/-- What a pass in the steady setting leaves when it is cut off as soon as a
component is stored. -/
def cutOnceStored (c : Component) (t : Table) : Option Table :=
  ((Pass.moments .steady (applyDesiredState default ⟨"", ∅⟩ none) {} ⟨t, []⟩).find? fun v =>
    (v.scene.store.get? (c.place default)).isSome).map (·.scene.store)

theorem turn_of_cutOnceStored {c : Component} (h : cutOnceStored c t = some u) :
    Turn Others t u := by
  obtain ⟨v, hv, rfl⟩ := Option.map_eq_some_iff.1 h
  exact .pass .steady {} default ⟨"", ∅⟩ (fun _ h => by cases h)
    (.inl ⟨v, List.mem_of_find?_eq_some hv, rfl⟩)

/-- A first pass is cut off with the deployment of the enforcer, its replica gets
ready, and a second one is cut off with the validating webhook. -/
def twiceCutOff : Option Table := do
  let t ← cutOnceStored .enforcer {}
  let ms ← (t.get? (Component.enforcer.place default)).bind Json.members?
  let status := Json.obj [("readyReplicas", .int 1)]
  cutOnceStored .validatingWebhook
    (t.put (Component.enforcer.place default) (.obj (Entries.insert "status" status ms)))

theorem turns_of_twiceCutOff (h : twiceCutOff = some u) : Turns StatusEdit {} u := by
  unfold twiceCutOff at h
  obtain ⟨t, hfirst, h⟩ := Option.bind_eq_some_iff.1 h
  obtain ⟨ms, hms, hsecond⟩ := Option.bind_eq_some_iff.1 h
  obtain ⟨j, hj, hmembers⟩ := Option.bind_eq_some_iff.1 hms
  cases j <;> cases hmembers
  have hedit : StatusEdit t (t.put (Component.enforcer.place default) (.obj (Entries.insert "status"
      (.obj [("readyReplicas", .int 1)]) ms))) := by
    refine .edit rfl hj ⟨_, ms, rfl, rfl, fun n hn => ?_⟩
    exact Entries.find?_insert_of_ne _ ms hn.symm
  refine Relation.ReflTransGen.tail (.tail (.single ?_) (.others hedit)) ?_
  · exact turn_of_cutOnceStored hfirst
  · exact turn_of_cutOnceStored hsecond

set_option maxRecDepth 10000 in
theorem moored_twiceCutOff :
    ∃ t, Turns StatusEdit {} t ∧
      (t.get? (Component.validatingWebhook.place default)).isSome = true ∧
      t.get? (Component.stateReporter.place default) = none ∧ NoneAdrift t := by
  have hstored : (twiceCutOff.any fun t =>
      (t.get? (Component.validatingWebhook.place default)).isSome &&
        (t.get? (Component.stateReporter.place default)).isNone) = true := by
    decide +kernel
  cases ht : twiceCutOff with
  | none =>
    rw [ht] at hstored
    cases hstored
  | some t =>
    rw [ht, Option.any_some, Bool.and_eq_true, Option.isNone_iff_eq_none] at hstored
    have hturns := turns_of_twiceCutOff ht
    exact ⟨t, hturns, hstored.1, hstored.2, hturns.moored⟩

end AgentOperator.Dataplane
