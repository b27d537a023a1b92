import AgentOperator.Proofs.Inventory

/-!
AgentOperator.Proofs.Plain — work that stops where it first fails.

Almost all of a pass is put together of a few steps, one after the other, with no
failure caught. `Pass.Plain` is that shape, and it also says what the pass makes
of the changes its steps report: from what was changed before it and the result,
whether anything has been changed by then. A statement about all such work is
proved by induction on it.

The one place where failures are caught is the enforcer, and it is plain on both
sides of that: its steps are, and so is what is done about the webhooks after
them (`runIn_applyEnforcer`).
-/

namespace AgentOperator.Dataplane

open Store (Table)

/-- Whether a step of the enforcer changed anything. -/
def EnforcerObjects.changed (objects : EnforcerObjects) : Bool :=
  objects.secret.changed || objects.service.changed || objects.deployment.changed

namespace Pass

/-- Work put together of steps. After `p`, which has the result `a`, something was
changed exactly if `f a`; before it, exactly if `b`. -/
inductive Plain (spec : Agent.Spec) (setOwner : Option OwnerSetter) :
    {α : Type} → (b : Bool) → (p : Pass α) → (f : α → Bool) → Prop where
  | pure {α : Type} {b : Bool} {a : α} {f : α → Bool} (h : f a = b) :
    Plain spec setOwner b (Pure.pure a) f
  | throw {α : Type} {b : Bool} (e : Error) (f : α → Bool) :
    Plain spec setOwner b (MonadExcept.throw e) f
  | bind {α β : Type} {b : Bool} {p : Pass α} {g : α → Bool} {k : α → Pass β} {f : β → Bool}
      (hp : Plain spec setOwner b p g) (hk : ∀ a, Plain spec setOwner (g a) (k a) f) :
    Plain spec setOwner b (p >>= k) f
  | ofExcept {α : Type} {b : Bool} (r : Except Error α) :
    Plain spec setOwner b (ofTask (Task.ofExcept r)) fun _ => b
  | kubeletVersion {b : Bool} : Plain spec setOwner b kubeletVersion fun _ => b
  | nodeCount {b : Bool} : Plain spec setOwner b (ofTask Task.nodeCount) fun _ => b
  | applied {b : Bool} (c : Component) (s : Surroundings) {opts : ApplyOptions}
      (hopts : opts.setOwner = setOwner) :
    Plain spec setOwner b (applied c s spec opts) fun a => b || a.changed
  | deleteIfExists {b : Bool} (c : Component) (kubelet : String) :
    Plain spec setOwner b (ofTask (deleteIfExists c kubelet spec)) fun deleted => b || deleted

variable {spec : Agent.Spec} {setOwner : Option OwnerSetter} {b : Bool} {s : Surroundings}
  {opts : ApplyOptions} {cs : List Component} {kubelet : String}

theorem plain_applyAll (hopts : opts.setOwner = setOwner) :
    Plain spec setOwner b (applyAll s spec opts cs) fun changed => b || changed := by
  induction cs generalizing b with
  | nil => exact .pure (Bool.or_false b)
  | cons c cs ih =>
    exact (Plain.applied c s hopts).bind fun first => ih.bind fun rest =>
      .pure (Bool.or_assoc ..).symm

theorem plain_deleteAll :
    Plain spec setOwner b (deleteAll kubelet spec cs) fun changed => b || changed := by
  induction cs generalizing b with
  | nil => exact .pure (Bool.or_false b)
  | cons c cs ih =>
    exact (Plain.deleteIfExists c kubelet).bind fun first => ih.bind fun rest =>
      .pure (Bool.or_assoc ..).symm

theorem plain_applyIf (wanted : Bool) (hopts : opts.setOwner = setOwner) :
    Plain spec setOwner b (applyIf wanted s spec opts cs) fun changed => b || changed := by
  unfold applyIf
  split
  · exact plain_applyAll hopts
  · exact plain_deleteAll

theorem plain_applyResolver (hopts : opts.setOwner = setOwner) :
    Plain spec setOwner b (applyResolver s spec opts) fun changed => b || changed := by
  unfold applyResolver
  dsimp only
  split
  · exact Plain.nodeCount.bind fun nodes => plain_applyAll hopts
  · exact plain_deleteAll

theorem plain_applyWebhooks (hopts : opts.setOwner = setOwner) (stored : Dict Bytes) :
    Plain spec setOwner b (applyWebhooks s spec opts stored) fun changed => b || changed := by
  unfold applyWebhooks
  refine (Plain.ofExcept _).bind fun tls => ?_
  refine (Plain.applied .validatingWebhook _ hopts).bind fun validating => ?_
  split
  · simp only [map_eq_pure_bind, bind_assoc, pure_bind]
    exact (Plain.applied .mutatingWebhook _ hopts).bind fun mutating =>
      .pure (Bool.or_assoc ..).symm
  · exact plain_deleteAll.bind fun mutating => .pure (Bool.or_assoc ..).symm

/-! ## The enforcer -/

theorem plain_enforcerSteps (hopts : opts.setOwner = setOwner) :
    Plain spec setOwner b (enforcerSteps s spec opts) fun objects =>
      b || objects.changed := by
  unfold enforcerSteps
  have hsecret : Plain spec setOwner b (applied .enforcerTls s spec { opts with createOnly := true })
      fun a => b || a.changed := .applied .enforcerTls s hopts
  refine hsecret.bind fun secret => ?_
  refine (Plain.applied .enforcerService s hopts).bind fun service => ?_
  refine (Plain.applied .enforcer s hopts).bind fun deployment => .pure ?_
  simp only [EnforcerObjects.changed, Bool.or_assoc]

/-- After a step of the enforcer that failed, the webhooks are deleted, and the pass
fails too. -/
theorem plain_pullWebhooks (e : Error) (f : Bool → Bool) :
    Plain spec setOwner b (deleteAll kubelet spec webhooks >>= fun _ => throw e) f :=
  plain_deleteAll.bind fun _ => .throw e f

theorem plain_enforcerWebhooks (hopts : opts.setOwner = setOwner) (objects : EnforcerObjects) :
    Plain spec setOwner (b || objects.changed)
      (enforcerWebhooks s spec opts objects) fun changed => b || changed := by
  have hend (changed : Bool) :
      (b || (objects.secret.changed || objects.service.changed || objects.deployment.changed ||
        changed)) = (b || objects.changed || changed) :=
    (Bool.or_assoc ..).symm
  unfold enforcerWebhooks
  refine (Plain.ofExcept _).bind fun stored => (Plain.ofExcept _).bind fun ready => ?_
  split
  · exact plain_deleteAll.bind fun changed => .pure (hend changed)
  · exact (plain_applyWebhooks hopts _).bind fun changed => .pure (hend changed)

/-! ## The whole dataplane -/

theorem plain_applyLater {changed : Bool} (hopts : opts.setOwner = setOwner) :
    Plain spec setOwner changed (applyLater s spec opts changed) id := by
  unfold applyLater
  refine (plain_applyAll hopts).bind fun stateReporter => ?_
  refine (plain_applyResolver hopts).bind fun resolver => ?_
  refine (plain_applyIf _ hopts).bind fun reporter => ?_
  exact (plain_applyIf _ hopts).bind fun nodeAgent => .pure rfl

/-! ## What every step goes along with -/

variable {α β : Type} {x : Setting} {p : Pass α} {f : α → Bool} {R : Scene → Scene → Prop}
  {m m' : Memory} {w w' : Scene} {r : Except Error α}

/-- A preorder on scenes that deleting one component goes along with. -/
structure FollowedByDeletion (x : Setting) (spec : Agent.Spec) (R : Scene → Scene → Prop) : Prop where
  refl : ∀ w, R w w
  trans : ∀ {u v w}, R u v → R v w → R u w
  deleted : ∀ {c kubelet r w w'},
    Task.runIn x (Dataplane.deleteIfExists c kubelet spec) w = (r, w') → R w w'

/-- Bringing one component to the spec goes along with it as well. -/
structure Followed (x : Setting) (spec : Agent.Spec) (setOwner : Option OwnerSetter)
    (R : Scene → Scene → Prop) : Prop extends FollowedByDeletion x spec R where
  applied : ∀ {c s opts r w w'}, opts.setOwner = setOwner →
    Task.runIn x (apply c s spec opts) w = (r, w') → R w w'

theorem FollowedByDeletion.bind {k : α → Pass β} {r : Except Error β}
    (h : FollowedByDeletion x spec R)
    (hp : ∀ {m w r m' w'}, runIn x p m w = ((r, m'), w') → R w w')
    (hk : ∀ a {m w r m' w'}, runIn x (k a) m w = ((r, m'), w') → R w w')
    (hrun : runIn x (p >>= k) m w = ((r, m'), w')) : R w w' := by
  rcases runIn_bind_eq.1 hrun with ⟨e, hstop, rfl⟩ | ⟨a, m₁, w₁, hfirst, hnext⟩
  · exact hp hstop
  · exact h.trans (hp hfirst) (hk a hnext)

theorem FollowedByDeletion.deleteAll {r : Except Error Bool} (h : FollowedByDeletion x spec R)
    (hrun : runIn x (deleteAll kubelet spec cs) m w = ((r, m'), w')) : R w w' := by
  induction cs generalizing m w m' w' r with
  | nil =>
    cases hrun
    exact h.refl w
  | cons c cs ih =>
    refine h.bind (fun hfirst => h.deleted (runIn_ofTask_eq.1 hfirst).2) ?_ hrun
    intro first m w r m' w' hrest
    refine h.bind ih ?_ hrest
    intro rest m w r m' w' hdone
    cases hdone
    exact h.refl w

/-- The deletion of what belongs to the whole cluster goes along with it. -/
theorem FollowedByDeletion.deleteClusterScoped {r : Except Error Bool}
    (h : FollowedByDeletion x spec R)
    (hrun : runIn x (Dataplane.deleteClusterScoped spec) m w = ((r, m'), w')) : R w w' := by
  refine h.bind (fun hversion => ?_) (fun kubelet => h.deleteAll) hrun
  rw [runIn_kubeletVersion_scene hversion]
  exact h.refl _

/-- All plain work goes along with it, however it ends. -/
theorem Plain.follows (h : Plain spec setOwner b p f) (hR : Followed x spec setOwner R)
    (hrun : runIn x p m w = ((r, m'), w')) : R w w' := by
  induction h generalizing m w m' w' with
  | pure h =>
    cases hrun
    exact hR.refl w
  | throw e f =>
    cases hrun
    exact hR.refl w
  | bind hp hk ihp ihk => exact hR.bind ihp (fun a => ihk a) hrun
  | ofExcept r =>
    obtain ⟨-, htask⟩ := runIn_ofTask_eq.1 hrun
    cases htask
    exact hR.refl w
  | kubeletVersion =>
    cases runIn_kubeletVersion_scene hrun
    exact hR.refl w
  | nodeCount =>
    obtain ⟨-, htask⟩ := runIn_ofTask_eq.1 hrun
    rw [Task.runIn_nodeCount] at htask
    obtain ⟨-, rfl⟩ := Prod.mk.inj htask
    exact hR.refl w
  | applied c s hopts =>
    rw [runIn_applied] at hrun
    rcases htask : Task.runIn x (apply c s spec _) w with ⟨_ | a, w₁⟩ <;>
      rw [htask] at hrun <;> cases hrun <;> exact hR.applied hopts htask
  | deleteIfExists c kubelet => exact hR.deleted (runIn_ofTask_eq.1 hrun).2

/-- What bringing a component to the spec and deleting one preserve, all plain work
preserves, however it ends. -/
theorem Plain.preserves {J : Table → Prop} (h : Plain spec setOwner b p f)
    (happly : ∀ {c s opts r t t'}, opts.setOwner = setOwner → Applying x c s spec opts t r t' →
      J t → J t')
    (hdelete : ∀ {c kubelet r t t'}, Deleting c kubelet spec t r t' → J t → J t')
    (hrun : runIn x p m w = ((r, m'), w')) (hj : J w.store) : J w'.store := by
  refine h.follows (x := x) (R := fun w w' => J w.store → J w'.store) ⟨⟨?_, ?_, ?_⟩, ?_⟩ hrun hj
  · exact fun _ hj => hj
  · exact fun h h' hj => h' (h hj)
  · exact fun htask hj => hdelete (deleting_of_runIn htask) hj
  · exact fun hopts htask hj => happly hopts (applying_of_runIn htask) hj

/-- Bringing the enforcer to the spec goes along with it, whichever of its steps fails. -/
theorem Followed.applyEnforcer (h : Followed x spec setOwner R) (hopts : opts.setOwner = setOwner)
    {r : Except Error Bool}
    (hrun : runIn x (Dataplane.applyEnforcer s spec opts) m w = ((r, m'), w')) : R w w' := by
  have hplain : Plain spec setOwner false (enforcerSteps s spec opts)
      fun objects => false || objects.changed := plain_enforcerSteps hopts
  rw [runIn_applyEnforcer] at hrun
  rcases hsteps : runIn x (enforcerSteps s spec opts) m w with ⟨⟨e | objects, m₁⟩, w₁⟩ <;>
    rw [hsteps] at hrun
  · have hpull : Plain spec setOwner false
        (deleteAll s.kubelet spec webhooks >>= fun _ => throw e) id := plain_pullWebhooks e id
    exact h.trans (hplain.follows h hsteps) (hpull.follows h hrun)
  · have hwebhooks : Plain spec setOwner (false || objects.changed)
        (enforcerWebhooks s spec opts objects) fun changed => false || changed :=
      plain_enforcerWebhooks hopts objects
    exact h.trans (hplain.follows h hsteps) (hwebhooks.follows h hrun)

/-- A whole pass goes along with it. -/
theorem Followed.applyDesiredState {registry : RegistryCredentials} {r : Except Error Bool}
    (h : Followed x spec setOwner R)
    (hrun : runIn x (Dataplane.applyDesiredState spec registry setOwner) m w = ((r, m'), w')) :
    R w w' := by
  have hversion : Plain spec setOwner false kubeletVersion fun _ => false := .kubeletVersion
  rw [applyDesiredState_eq] at hrun
  refine h.bind (hversion.follows h) (fun kubelet {m w r m' w'} hknown => ?_) hrun
  let s : Surroundings := { kubelet, registry := some registry }
  have hcore : Plain spec setOwner false (applyAll s spec { setOwner } coreComponents)
      fun changed => false || changed := plain_applyAll rfl
  refine h.bind (hcore.follows h) (fun core {m w r m' w'} hrest => ?_) hknown
  refine h.bind (h.applyEnforcer rfl) (fun enforcer {m w r m' w'} hlater => ?_) hrest
  have hplain : Plain spec setOwner (core || enforcer)
      (applyLater s spec { setOwner } (core || enforcer)) id := plain_applyLater rfl
  exact hplain.follows h hlater

end Pass

end AgentOperator.Dataplane
