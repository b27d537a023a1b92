import AgentOperator.Proofs.Convergence
import AgentOperator.Proofs.History
import AgentOperator.Proofs.Interruption

/-!
AgentOperator.Proofs.Rendering — what is stored is what the spec makes of nothing.

Owners, keys, statuses and everything that earlier specs left are nothing to the gist
of a stored object: it is the gist of the empty object brought to one spec
(`Component.Rendered`). Every store that passes and cleanups lead to holds only such
objects (`Reached.allRendered`), and a pass that succeeds leaves each component either
absent or rendered for the spec it was given (`Reached.rendered`).
-/

namespace AgentOperator.Kube

/-- The object with no metadata but labels and annotations, and without the status that
others write. -/
def Object.bare : Object → Object
  | .deployment d =>
    .deployment { d with metadata := Dataplane.marked {} d.metadata, status := none }
  | o => o.withMetadata (Dataplane.marked {} o.metadata)

/-- Key and owners are nothing to the bare object. -/
theorem Object.bare_withMetadata (o : Object) {m : ObjectMeta}
    (hlabels : m.labels = o.metadata.labels)
    (hannotations : m.annotations = o.metadata.annotations) : (o.withMetadata m).bare = o.bare := by
  have hmarked : Dataplane.marked {} m = Dataplane.marked {} o.metadata := by
    rw [Dataplane.marked, Dataplane.marked, hlabels, hannotations]
  cases o <;> simp only [Object.withMetadata, Object.bare, Object.metadata] at hmarked ⊢ <;>
    rw [hmarked]

theorem Object.pullSecrets_withMetadata (o : Object) (m : ObjectMeta) :
    (o.withMetadata m).pullSecrets = o.pullSecrets := by
  cases o <;> rfl

end AgentOperator.Kube

namespace AgentOperator.Dataplane

open Kube (Deployment Object)
open Pass
open Store (Place Table placeOf)
open Workload (settledPullSecrets)

variable {α β : Type} {x : Setting} {c d : Component} {kubelet : String} {s s' : Surroundings}
  {spec spec' : Agent.Spec} {opts : ApplyOptions} {cs ds : List Component} {o o₁ : Object}
  {p : Place} {t t' : Table}

/-! ## Rendered objects -/

@[simp] theorem bare_emptyObject (c : Component) (kubelet : String) :
    (c.emptyObject kubelet).bare = c.emptyObject kubelet := by
  cases c <;> rfl

/-- A component makes of the bare object what is bare of what it makes of the object. -/
theorem Component.Change.bare (h : Component.Change s spec c o o₁) :
    Component.Change s spec c o.bare o₁.bare := by
  have hmarked := h.withMetadata (m := marked {} o.metadata) rfl rfl
  cases h with
  | @deployment _ d p hp =>
    have hplain : Component.Change s spec c
        (.deployment { d with metadata := marked {} d.metadata, status := none }) _ :=
      .deployment _ hp
    have hsame : Object.deployment
          (p.apply spec { d with metadata := marked {} d.metadata, status := none })
        = (Object.deployment (p.apply spec d)).bare :=
      congrArg (fun e : Deployment => Object.deployment { e with status := none })
        (DeploymentPlan.apply_withMetadata p spec d (m := marked {} d.metadata) rfl)
    exact hsame ▸ hplain
  | _ => exact hmarked

/-- The object is, up to what is outside of the gist, what the spec makes of nothing, with
pull secrets that the spec settles for. -/
structure Component.Rendered (c : Component) (kubelet : String) (spec : Agent.Spec) (o : Object) :
    Prop where
  gist : ∃ s f, s.kubelet = kubelet ∧ Component.Change s spec c (c.emptyObject kubelet) f ∧
    o.bare.gist = f.gist
  pullSecrets : ∃ nodes actual, o.pullSecrets = settledPullSecrets (c.pullSecrets nodes spec) actual

/-- Certificates are issued for no spec in particular. -/
theorem rendered_enforcerTls (h : Component.enforcerTls.Rendered kubelet spec o)
    (spec' : Agent.Spec) : Component.enforcerTls.Rendered kubelet spec' o := by
  obtain ⟨⟨s, f, hkubelet, hchange, hgist⟩, hpull⟩ := h
  refine ⟨⟨s, f, hkubelet, ?_, hgist⟩, hpull⟩
  cases hchange with
  | enforcerTls _ htls => exact .enforcerTls _ htls

/-- The issuer has no say in the kubelet version. -/
theorem kubelet_of_surroundings (h : x.surroundings c s spec = .ok s') :
    s'.kubelet = s.kubelet := by
  cases c
  case enforcerTls =>
    obtain ⟨tls, -, h⟩ := Except.bind_eq_ok.1 h
    cases h
    rfl
  all_goals
    cases h
    rfl

/-- What is wanted is rendered, if what was found was, for whatever spec. -/
theorem rendered_of_wanted (hopts : opts.Proper) {found : Option Object}
    (hfound : ∀ observed, found = some observed → ∃ spec', c.Rendered s.kubelet spec' observed)
    (h : x.wanted c s spec opts found = .ok o) : c.Rendered s.kubelet spec o := by
  obtain ⟨s', o₁, name, space, refs, hs', hchange, rfl, -, -⟩ := wanted_eq_ok hopts h
  have hkubelet := kubelet_of_surroundings hs'
  obtain ⟨f, hfresh⟩ : ∃ f, Component.Change s' spec c (c.emptyObject s.kubelet) f :=
    Component.exists_change spec (emptyObject_kind c s.kubelet) hchange.refusal
  refine ⟨⟨s', f, hkubelet, hfresh, ?_⟩, s'.nodes,
    (found.getD (c.emptyObject s.kubelet)).pullSecrets, ?_⟩
  · rw [Object.bare_withMetadata]
    · have hinherits : c.Inherits s.kubelet (found.getD (c.emptyObject s.kubelet)).bare := by
        cases found with
        | none => exact .inl (congrArg Object.gist (bare_emptyObject c s.kubelet))
        | some observed =>
          obtain ⟨spec', ⟨s₀, f₀, hkubelet₀, hold, hgist⟩, -⟩ := hfound observed rfl
          exact .inr ⟨s₀, spec', f₀, hkubelet₀, hold, hgist⟩
      exact hinherits.gist_eq hkubelet hchange.bare hfresh
    · rfl
    · rfl
  · rw [Object.pullSecrets_withMetadata]
    exact hchange.pullSecrets

/-! ## Stores of rendered objects -/

/-- A value that a pass wrote at a component's place, rendered for some spec, with
whatever status others gave a deployment since. -/
inductive RenderedAt (kubelet : String) (p : Place) : Json → Prop where
  | written {c : Component} {spec spec' : Agent.Spec} {o : Object} (hplace : c.place spec = p)
      (hheld : Held kubelet p o) (h : c.Rendered kubelet spec' o) : RenderedAt kubelet p o.encode
  | edited {c : Component} {spec spec' : Agent.Spec} {d : Deployment} {j : Json}
      (hplace : c.place spec = p) (hheld : Held kubelet p (.deployment d))
      (h : c.Rendered kubelet spec' (.deployment d))
      (hj : j.SameBeside "status" (Deployment.codec.encode d)) : RenderedAt kubelet p j

/-- A store of such values only. -/
def AllRendered (kubelet : String) (t : Table) : Prop :=
  ∀ p j, t.get? p = some j → RenderedAt kubelet p j

theorem RenderedAt.kept {j : Json} (h : RenderedAt kubelet p j) : Kept kubelet p j := by
  cases h with
  | written hplace hheld h => exact .written hheld
  | edited hplace hheld h hj => exact .edited hheld hj

theorem RenderedAt.edit {i j : Json} (h : RenderedAt kubelet p j) (hkind : p.kind = .deployment)
    (hi : i.SameBeside "status" j) : RenderedAt kubelet p i := by
  cases h with
  | @written c spec spec' o hplace hheld h =>
    have hkind' : o.kind = .deployment := (congrArg Place.kind hheld.place).trans hkind
    cases o <;> first | exact .edited hplace hheld h hi | cases hkind'
  | edited hplace hheld h hj => exact .edited hplace hheld h (hi.trans hj)

theorem AllRendered.orderly (h : AllRendered kubelet t) : Orderly kubelet t :=
  fun p j hj => (h p j hj).kept

theorem allRendered_empty {t : Table} (h : ∀ p, t.get? p = none) : AllRendered kubelet t := by
  intro p j hj
  rw [h p] at hj
  cases hj

theorem AllRendered.put (h : AllRendered kubelet t) {j : Json} (hj : RenderedAt kubelet p j) :
    AllRendered kubelet (t.put p j) := by
  intro q i hi
  rw [Table.get?_put] at hi
  split at hi
  · rename_i hpq
    cases hi
    exact hpq ▸ hj
  · exact h q i hi

/-- What is read of a component is rendered. -/
theorem AllRendered.of_stored (h : AllRendered kubelet t)
    (ho : c.stored kubelet spec t = .ok (some o)) : ∃ spec', c.Rendered kubelet spec' o := by
  obtain ⟨j, hj, hread⟩ := Table.get?_of_read_eq_some ho
  rw [emptyObject_kind] at hj
  cases h _ j hj with
  | @written c' _ spec' o' hplace hheld h =>
    cases Component.eq_of_place hplace
    have hread' := Object.decodeLike_encode hheld.known
    rw [show o'.kind = c.kind from congrArg Place.kind hheld.place] at hread'
    cases hread.symm.trans hread'
    exact ⟨spec', h⟩
  | @edited c' _ spec' d j hplace hheld h hj =>
    cases Component.eq_of_place hplace
    have hempty : c.emptyObject kubelet = .deployment {} := by
      have hkind : c.kind = .deployment := (congrArg Place.kind hheld.place).symm
      cases c <;> first | rfl | cases hkind
    rw [hempty] at hread
    obtain ⟨e, he, rfl⟩ := Except.map_eq_ok.1 hread
    obtain ⟨status, rfl, -⟩ :=
      Deployment.eq_of_decode hheld.known hj (Kube.orUnreadable_eq_ok.1 he)
    exact ⟨spec', h.gist, h.pullSecrets⟩

theorem AllRendered.rendered_of_wanted (h : AllRendered s.kubelet t) (hopts : opts.Proper)
    {found : Option Object} (hread : c.stored s.kubelet spec t = .ok found)
    (hwanted : x.wanted c s spec opts found = .ok o) : c.Rendered s.kubelet spec o := by
  refine Dataplane.rendered_of_wanted hopts ?_ hwanted
  rintro observed rfl
  exact h.of_stored hread

theorem Applying.allRendered {r : Except Error Applied} (h : Applying x c s spec opts t r t')
    (hopts : opts.Proper) (ht : AllRendered s.kubelet t) : AllRendered s.kubelet t' := by
  cases h with
  | written hread hwanted hchanged hfresh =>
    have hheld := ht.orderly.held_of_wanted hopts hread hwanted
    rw [hheld.place]
    exact ht.put (.written rfl hheld (ht.rendered_of_wanted hopts hread hwanted))
  | _ => exact ht

theorem Deleting.allRendered {r : Except Error Bool} (h : Deleting c kubelet spec t r t')
    (ht : AllRendered kubelet t) : AllRendered kubelet t' :=
  fun p j hj => ht p j (h.get?_eq_some hj)

/-- A component that was brought to the spec is rendered for it. Of those that are only
made anew, none depends on the spec. -/
theorem Applying.rendered {a : Applied} (h : Applying x c s spec opts t (.ok a) t')
    (hopts : opts.Proper) (honly : opts.createOnly = true → c = .enforcerTls)
    (ht : AllRendered s.kubelet t) : c.Rendered s.kubelet spec a.object := by
  cases h with
  | kept hread hcreate =>
    obtain ⟨spec', h⟩ := ht.of_stored hread
    cases honly hcreate
    exact rendered_enforcerTls h spec
  | same hread hupdate hwanted => exact ht.rendered_of_wanted hopts hread hwanted
  | written hread hwanted hchanged hfresh => exact ht.rendered_of_wanted hopts hread hwanted

/-! ## Passes that render -/

/-- A component is absent, or stored as the spec renders it. -/
def Component.Brought (c : Component) (kubelet : String) (spec : Agent.Spec) (t : Table) : Prop :=
  t.get? (c.place spec) = none ∨
    ∃ o, c.stored kubelet spec t = .ok (some o) ∧ c.Rendered kubelet spec o

theorem Component.Brought.congr (h : c.Brought kubelet spec t)
    (hsame : t'.get? (c.place spec) = t.get? (c.place spec)) : c.Brought kubelet spec t' := by
  unfold Brought
  rwa [hsame, stored_congr hsame]

/-- Where work ended that renders these components: others are as they were, and on
success these are brought to the spec. -/
structure Rendering (kubelet : String) (spec : Agent.Spec) (cs : List Component) (t : Table)
    (m' : Memory) (t' : Table) (succeeded : Prop) : Prop where
  known : m'.kubelet = some kubelet
  all : AllRendered kubelet t'
  others : ∀ d, d ∉ cs → t'.get? (d.place spec) = t.get? (d.place spec)
  brought : succeeded → ∀ c ∈ cs, c.Brought kubelet spec t'

namespace Pass

/-- Once the kubelet version is known, the work renders these components. -/
structure Renders (x : Setting) (kubelet : String) (spec : Agent.Spec) (cs : List Component)
    (p : Pass α) : Prop where
  run : ∀ {m w r m' w'}, m.kubelet = some kubelet → AllRendered kubelet w.store →
    runIn x p m w = ((r, m'), w') →
    Rendering kubelet spec cs w.store m' w'.store (∃ a, r = .ok a)

variable {f : α → Pass β} {q : Pass α}

theorem Renders.pure (a : α) : Renders x kubelet spec [] (Pure.pure a : Pass α) := by
  refine ⟨fun {m w r m' w'} hm hw hrun => ?_⟩
  cases hrun
  exact ⟨hm, hw, fun _ _ => rfl, fun _ => List.forall_mem_nil _⟩

/-- Work that fails makes no promises. -/
theorem Renders.throw (e : Error) : Renders x kubelet spec cs (throw e : Pass α) := by
  refine ⟨fun {m w r m' w'} hm hw hrun => ?_⟩
  cases hrun
  exact ⟨hm, hw, fun _ _ => rfl, fun ⟨_, ha⟩ => (by cases ha)⟩

/-- Parts of the work are about different components. -/
theorem Renders.bind (hq : Renders x kubelet spec cs q) (hf : ∀ a, Renders x kubelet spec ds (f a))
    (hdisjoint : ∀ c ∈ cs, c ∉ ds) : Renders x kubelet spec (cs ++ ds) (q >>= f) := by
  refine ⟨fun {m w r m' w'} hm hw hrun => ?_⟩
  rcases runIn_bind_eq.1 hrun with ⟨e, hstop, rfl⟩ | ⟨a, m₁, w₁, hfirst, hnext⟩
  · have h := hq.run hm hw hstop
    refine ⟨h.known, h.all, fun d hd => ?_, fun ⟨_, ha⟩ => (by cases ha)⟩
    exact h.others d fun hmem => hd (List.mem_append_left ds hmem)
  · have h := hq.run hm hw hfirst
    have h' := (hf a).run h.known h.all hnext
    refine ⟨h'.known, h'.all, fun d hd => ?_, fun hok c hc => ?_⟩
    · rw [h'.others d fun hmem => hd (List.mem_append_right cs hmem),
        h.others d fun hmem => hd (List.mem_append_left ds hmem)]
    · rcases List.mem_append.1 hc with hc | hc
      · exact (h.brought ⟨a, rfl⟩ c hc).congr (h'.others c (hdisjoint c hc))
      · exact h'.brought hok c hc

/-- Work that touches no component may come first. -/
theorem Renders.nil_bind (hq : Renders x kubelet spec [] q)
    (hf : ∀ a, Renders x kubelet spec ds (f a)) : Renders x kubelet spec ds (q >>= f) :=
  hq.bind hf fun _ hc => absurd hc List.not_mem_nil

/-- What only computes the result may come last. -/
theorem Renders.bind_pure (hq : Renders x kubelet spec cs q) (g : α → β) :
    Renders x kubelet spec cs (q >>= fun a => Pure.pure (g a)) := by
  have h := hq.bind (fun a => Renders.pure (g a)) fun _ _ => List.not_mem_nil
  rwa [List.append_nil] at h

theorem renders_ofExcept (r : Except Error α) :
    Renders x kubelet spec [] (ofTask (Task.ofExcept r)) := by
  refine ⟨fun {m w r' m' w'} hm hw hrun => ?_⟩
  obtain ⟨rfl, htask⟩ := runIn_ofTask_eq.1 hrun
  cases htask
  exact ⟨hm, hw, fun _ _ => rfl, fun _ => List.forall_mem_nil _⟩

theorem renders_nodeCount : Renders x kubelet spec [] (ofTask Task.nodeCount) := by
  refine ⟨fun {m w r m' w'} hm hw hrun => ?_⟩
  obtain ⟨rfl, htask⟩ := runIn_ofTask_eq.1 hrun
  rw [Task.runIn_nodeCount] at htask
  obtain ⟨-, rfl⟩ := Prod.mk.inj htask
  exact ⟨hm, hw, fun _ _ => rfl, fun _ => List.forall_mem_nil _⟩

theorem renders_applied (hkubelet : s.kubelet = kubelet) (hopts : opts.Proper)
    (honly : opts.createOnly = true → c = .enforcerTls) :
    Renders x kubelet spec [c] (applied c s spec opts) := by
  subst hkubelet
  refine ⟨fun {m w r m' w'} hm hw hrun => ?_⟩
  obtain ⟨hknown, happly⟩ := applying_of_applied hrun
  have hplaced := hw.orderly.placed
  refine ⟨hknown.trans hm, happly.allRendered hopts hw, fun d hd => ?_, ?_⟩
  · refine happly.get?_of_ne hopts hplaced fun hplace => hd ?_
    rw [Component.eq_of_place hplace]
    exact List.mem_singleton_self c
  · rintro ⟨a, rfl⟩ d hd
    cases List.mem_singleton.1 hd
    exact .inr ⟨a.object, happly.stored_after hopts hplaced, happly.rendered hopts honly hw⟩

theorem renders_deleteIfExists :
    Renders x kubelet spec [c] (ofTask (deleteIfExists c kubelet spec)) := by
  refine ⟨fun {m w r m' w'} hm hw hrun => ?_⟩
  obtain ⟨rfl, htask⟩ := runIn_ofTask_eq.1 hrun
  have hdelete := deleting_of_runIn htask
  have hplaced := hw.orderly.placed
  refine ⟨hm, hdelete.allRendered hw, fun d hd => ?_, ?_⟩
  · refine hdelete.get?_of_ne hplaced fun hplace => hd ?_
    rw [Component.eq_of_place hplace]
    exact List.mem_singleton_self c
  · rintro ⟨a, rfl⟩ d hd
    cases List.mem_singleton.1 hd
    exact .inl (hdelete.absent_after hplaced)

theorem renders_applyAll (hkubelet : s.kubelet = kubelet) (hopts : opts.Proper)
    (hcreate : opts.createOnly = false) (hnodup : cs.Nodup) :
    Renders x kubelet spec cs (applyAll s spec opts cs) := by
  induction cs with
  | nil => exact .pure false
  | cons c cs ih =>
    obtain ⟨hc, hcs⟩ := List.nodup_cons.1 hnodup
    have hfirst : Renders x kubelet spec [c] (applied c s spec opts) :=
      renders_applied hkubelet hopts fun h => by rw [hcreate] at h; cases h
    show Renders x kubelet spec ([c] ++ cs) _
    refine hfirst.bind (fun first => (ih hcs).bind_pure _) fun d hd => ?_
    rwa [List.mem_singleton.1 hd]

theorem renders_deleteAll (hnodup : cs.Nodup) :
    Renders x kubelet spec cs (deleteAll kubelet spec cs) := by
  induction cs with
  | nil => exact .pure false
  | cons c cs ih =>
    obtain ⟨hc, hcs⟩ := List.nodup_cons.1 hnodup
    have hfirst : Renders x kubelet spec [c] (ofTask (deleteIfExists c kubelet spec)) :=
      renders_deleteIfExists
    show Renders x kubelet spec ([c] ++ cs) _
    refine hfirst.bind (fun first => (ih hcs).bind_pure _) fun d hd => ?_
    rwa [List.mem_singleton.1 hd]

theorem renders_applyIf (wanted : Bool) (hkubelet : s.kubelet = kubelet) (hopts : opts.Proper)
    (hcreate : opts.createOnly = false) (hnodup : cs.Nodup) :
    Renders x kubelet spec cs (applyIf wanted s spec opts cs) := by
  subst hkubelet
  unfold applyIf
  split
  · exact renders_applyAll rfl hopts hcreate hnodup
  · exact renders_deleteAll hnodup

theorem renders_applyResolver (hkubelet : s.kubelet = kubelet) (hopts : opts.Proper)
    (hcreate : opts.createOnly = false) :
    Renders x kubelet spec [.resolverService, .resolver] (applyResolver s spec opts) := by
  subst hkubelet
  unfold applyResolver
  dsimp only
  split
  · refine renders_nodeCount.nil_bind fun nodes => ?_
    exact renders_applyAll (s := { s with nodes := some nodes }) rfl hopts hcreate (by decide)
  · exact renders_deleteAll (by decide)

/-! ## The enforcer -/

theorem renders_applyWebhooks (hkubelet : s.kubelet = kubelet) (hopts : opts.Proper)
    (hcreate : opts.createOnly = false) (stored : Dict Bytes) :
    Renders x kubelet spec webhooks (applyWebhooks s spec opts stored) := by
  subst hkubelet
  have happlied (c : Component) (tls : TlsMaterial) :
      Renders x s.kubelet spec [c] (applied c { s with tls := some tls } spec opts) :=
    renders_applied rfl hopts fun h => by rw [hcreate] at h; cases h
  unfold applyWebhooks
  refine (renders_ofExcept _).nil_bind fun tls => ?_
  refine (happlied .validatingWebhook tls).bind (fun validating => ?_) (by decide)
  split
  · simp only [map_eq_pure_bind, bind_assoc, pure_bind]
    exact (happlied .mutatingWebhook tls).bind_pure _
  · exact (renders_deleteAll (by decide)).bind_pure _

theorem renders_enforcerSteps (hkubelet : s.kubelet = kubelet) (hopts : opts.Proper)
    (hcreate : opts.createOnly = false) :
    Renders x kubelet spec enforcerComponents (enforcerSteps s spec opts) := by
  have hno (c : Component) : opts.createOnly = true → c = .enforcerTls := by
    intro h
    rw [hcreate] at h
    cases h
  have hsecret : Renders x kubelet spec [.enforcerTls]
      (applied .enforcerTls s spec { opts with createOnly := true }) :=
    renders_applied hkubelet hopts fun _ => rfl
  unfold enforcerSteps
  refine hsecret.bind (fun secret => ?_) (by decide)
  refine (renders_applied hkubelet hopts (hno .enforcerService)).bind (fun service => ?_)
    (by decide)
  exact (renders_applied hkubelet hopts (hno .enforcer)).bind_pure _

theorem renders_applyEnforcer (hkubelet : s.kubelet = kubelet) (hopts : opts.Proper)
    (hcreate : opts.createOnly = false) :
    Renders x kubelet spec (enforcerComponents ++ webhooks) (applyEnforcer s spec opts) := by
  subst hkubelet
  have hsteps : Renders x s.kubelet spec enforcerComponents (enforcerSteps s spec opts) :=
    renders_enforcerSteps rfl hopts hcreate
  -- on both sides of the steps, what follows is about the webhooks only
  have hpull (e : Error) : Renders x s.kubelet spec webhooks
      (deleteAll s.kubelet spec webhooks >>= fun _ => (throw e : Pass Bool)) := by
    have h : Renders x s.kubelet spec (webhooks ++ [])
        (deleteAll s.kubelet spec webhooks >>= fun _ => (throw e : Pass Bool)) :=
      (renders_deleteAll (by decide)).bind (fun _ => .throw e) fun _ _ => List.not_mem_nil
    rwa [List.append_nil] at h
  have hwebhooks (objects : EnforcerObjects) : Renders x s.kubelet spec webhooks
      (enforcerWebhooks s spec opts objects) := by
    unfold enforcerWebhooks
    refine (renders_ofExcept _).nil_bind fun stored => ?_
    refine (renders_ofExcept _).nil_bind fun ready => ?_
    split
    · exact (renders_deleteAll (by decide)).bind_pure _
    · exact (renders_applyWebhooks rfl hopts hcreate _).bind_pure _
  have hboth : Renders x s.kubelet spec (enforcerComponents ++ webhooks)
      (enforcerSteps s spec opts >>= enforcerWebhooks s spec opts) :=
    hsteps.bind hwebhooks (by decide)
  refine ⟨fun {m w r m' w'} hm hw hrun => ?_⟩
  rw [runIn_applyEnforcer] at hrun
  rcases hrun₁ : runIn x (enforcerSteps s spec opts) m w with ⟨⟨e | objects, m₁⟩, w₁⟩ <;>
    rw [hrun₁] at hrun
  · have h₁ := hsteps.run hm hw hrun₁
    have h₂ := (hpull e).run h₁.known h₁.all hrun
    have hfailed : ¬ ∃ b, r = .ok b := by
      rcases runIn_bind_eq.1 hrun with ⟨e', -, rfl⟩ | ⟨b, m₂, w₂, -, hthrow⟩
      · exact fun ⟨_, hb⟩ => (by cases hb)
      · cases hthrow
        exact fun ⟨_, hb⟩ => (by cases hb)
    refine ⟨h₂.known, h₂.all, fun d hd => ?_, fun hok => absurd hok hfailed⟩
    rw [h₂.others d fun hmem => hd (List.mem_append_right _ hmem),
      h₁.others d fun hmem => hd (List.mem_append_left _ hmem)]
  · exact hboth.run hm hw (by rw [runIn_bind, hrun₁]; exact hrun)

/-! ## The whole dataplane -/

/-- Every pass renders the whole dataplane. -/
theorem renders_applyKnown (registry : RegistryCredentials) {setOwner : Option OwnerSetter}
    (hopts : ApplyOptions.Proper { setOwner }) :
    Renders x kubelet spec
      (coreComponents ++ ((enforcerComponents ++ webhooks) ++ laterComponents))
      (applyKnown kubelet spec registry setOwner) := by
  have happly (wanted : Bool) (cs : List Component) (hnodup : cs.Nodup) : Renders x kubelet spec cs
      (applyIf wanted { kubelet, registry := some registry } spec { setOwner } cs) :=
    renders_applyIf wanted rfl hopts rfl hnodup
  unfold applyKnown
  refine (happly true coreComponents (by decide)).bind (fun core => ?_) (by decide)
  have hresolver : Renders x kubelet spec [.resolverService, .resolver]
      (applyResolver { kubelet, registry := some registry } spec { setOwner }) :=
    renders_applyResolver rfl hopts rfl
  have henforcer : Renders x kubelet spec (enforcerComponents ++ webhooks)
      (applyEnforcer { kubelet, registry := some registry } spec { setOwner }) :=
    renders_applyEnforcer rfl hopts rfl
  refine henforcer.bind (fun enforcer => ?_) (by decide)
  unfold applyLater laterComponents
  refine (happly true [.stateReporter] (by decide)).bind (fun stateReporter => ?_) (by decide)
  refine hresolver.bind (fun resolver => ?_) (by decide)
  refine (happly _ [.imageScanningReporterService, .imageScanningReporter] (by decide)).bind
    (fun reporter => ?_) (by decide)
  exact (happly _ [.nodeAgent] (by decide)).bind_pure _

end Pass

/-! ## Reached stores -/

/-- The store holds only what was rendered for the kubelet version that is remembered, or
for whichever is going to be. -/
def Entailed (m : Memory) (t : Table) : Prop :=
  ∀ kubelet, m.kubelet = none ∨ m.kubelet = some kubelet → AllRendered kubelet t

variable {m m' : Memory} {w' : Scene} {r : Except Error α}

theorem Entailed.placed (h : Entailed m t) : Placed t := by
  cases hm : m.kubelet with
  | some kubelet => exact (h kubelet (.inr hm)).orderly.placed
  | none => exact (h "" (.inl hm)).orderly.placed

/-- Work that starts with the kubelet version does nothing before it is known, and then
renders as it would have if it had been known. -/
theorem Entailed.run {f : String → Pass α} (h : Entailed m t)
    (hrenders : ∀ kubelet, Renders x kubelet spec cs (f kubelet))
    (hrun : runIn x (kubeletVersion >>= f) m ⟨t, []⟩ = ((r, m'), w')) :
    (m' = m ∧ w'.store = t ∧ ∃ e, r = .error e) ∨
      ∃ kubelet, Rendering kubelet spec cs t m' w'.store (∃ a, r = .ok a) := by
  rw [runIn_bind] at hrun
  cases hm : m.kubelet with
  | some kubelet =>
    rw [runIn_kubeletVersion_of_known hm] at hrun
    exact .inr ⟨kubelet, (hrenders kubelet).run hm (h kubelet (.inr hm)) hrun⟩
  | none =>
    rw [runIn_kubeletVersion_of_unknown hm] at hrun
    cases hx : x.kubelet with
    | error e =>
      rw [hx] at hrun
      cases hrun
      exact .inl ⟨rfl, rfl, e, rfl⟩
    | ok kubelet =>
      rw [hx] at hrun
      exact .inr ⟨kubelet, (hrenders kubelet).run rfl (h kubelet (.inl hm)) hrun⟩

theorem Entailed.next {f : String → Pass α} (h : Entailed m t)
    (hrenders : ∀ kubelet, Renders x kubelet spec cs (f kubelet))
    (hrun : runIn x (kubeletVersion >>= f) m ⟨t, []⟩ = ((r, m'), w')) :
    Entailed m' w'.store := by
  rcases h.run hrenders hrun with ⟨rfl, hstore, -⟩ | ⟨kubelet, hrendering⟩
  · rw [hstore]
    exact h
  · intro version hversion
    rw [hrendering.known] at hversion
    rcases hversion with hversion | hversion
    · cases hversion
    · cases hversion
      exact hrendering.all

/-- Whatever passes, cleanups and other writers do, the store holds only what was
rendered. -/
theorem Reached.entailed (h : Reached m t) : Entailed m t := by
  induction h with
  | empty m => exact fun kubelet _ => allRendered_empty fun _ => rfl
  | pass h x spec registry hopts hrun ih =>
    exact ih.next (fun kubelet => renders_applyKnown registry hopts) hrun
  | cleanup h x spec hrun ih =>
    exact ih.next (fun kubelet => renders_deleteAll (by decide)) hrun
  | @edit m t p i j h hkind hj hi ih =>
    intro kubelet hm
    exact (ih kubelet hm).put ((ih kubelet hm p j hj).edit hkind hi)

/-- **Every component as the spec has it.** A pass that succeeds on a reached store leaves
each component either absent or rendered for its spec. -/
theorem Reached.brought {changed : Bool} {registry : RegistryCredentials}
    {setOwner : Option OwnerSetter} (h : Reached m t) (hopts : ApplyOptions.Proper { setOwner })
    (hrun : runIn x (applyDesiredState spec registry setOwner) m ⟨t, []⟩
      = ((.ok changed, m'), w')) :
    ∃ kubelet, m'.kubelet = some kubelet ∧ AllRendered kubelet w'.store ∧
      ∀ c : Component, c.Brought kubelet spec w'.store := by
  rcases h.entailed.run (fun kubelet => renders_applyKnown registry hopts) hrun
    with ⟨-, -, e, hfailed⟩ | ⟨kubelet, hrendering⟩
  · cases hfailed
  · refine ⟨kubelet, hrendering.known, hrendering.all, fun c => ?_⟩
    exact hrendering.brought ⟨changed, rfl⟩ c (by cases c <;> decide)

end AgentOperator.Dataplane
