import AgentOperator.Proofs.Mutate
import AgentOperator.Proofs.Runs

/-!
AgentOperator.Proofs.Applying — everything that bringing one component to the
spec, or deleting it, can do to the store.

`Applying` and `Deleting` list the ways such a step can end, each with what was
read and what was written. They are what every later statement about passes
starts from; nothing there unfolds `apply` or `deleteIfExists` again.
-/

namespace AgentOperator.Dataplane

open Kube (Kind Object ObjectKey ObjectMeta)
open Store (Call Place Table placeOf)

/-! ## Components in the store -/

/-- Where a component's object is stored. -/
def Component.place (c : Component) (spec : Agent.Spec) : Place := ⟨c.kind, c.key spec⟩

@[simp] theorem emptyObject_kind (c : Component) (kubelet : String) :
    (c.emptyObject kubelet).kind = c.kind := by
  cases c <;> rfl

/-- What is stored of a component. -/
def Component.stored (c : Component) (kubelet : String) (spec : Agent.Spec) (t : Table) :
    Except Error (Option Object) :=
  t.read (c.emptyObject kubelet) (c.key spec)

theorem stored_congr {c : Component} {kubelet : String} {spec : Agent.Spec} {t u : Table}
    (h : u.get? (c.place spec) = t.get? (c.place spec)) :
    c.stored kubelet spec u = c.stored kubelet spec t := by
  refine Table.read_congr ?_
  rw [emptyObject_kind]
  exact h

/-- An object read as one of a kind is of that kind. -/
theorem decodeLike_kind {template o : Object} {j : Json} (h : template.decodeLike j = .ok o) :
    o.kind = template.kind := by
  cases template <;> obtain ⟨_, -, rfl⟩ := Except.map_eq_ok.1 h <;> rfl

theorem stored_kind {c : Component} {kubelet : String} {spec : Agent.Spec} {t : Table} {o : Object}
    (h : c.stored kubelet spec t = .ok (some o)) : o.kind = c.kind := by
  obtain ⟨j, -, hj⟩ := Table.get?_of_read_eq_some h
  rw [decodeLike_kind hj, emptyObject_kind]

/-! ## The object a component asks for -/

/-- The surroundings with the certificate the issuer gives. It is asked for, since what is
stored of a component is of its kind (`stored_kind`). -/
def Setting.surroundings (x : Setting) (c : Component) (s : Surroundings) (spec : Agent.Spec) :
    Except Error Surroundings :=
  match c with
  | .enforcerTls => do return { s with issued := .ok (← x.certificate (enforcerServiceKey spec)) }
  | _ => .ok s

/-- What an object that was found, or not, is brought to. -/
def Setting.wanted (x : Setting) (c : Component) (s : Surroundings) (spec : Agent.Spec)
    (opts : ApplyOptions) (found : Option Object) : Except Error Object := do
  let s' ← x.surroundings c s spec
  match found with
  | none => opts.own (named (c.key spec) (← c.mutate s' spec (c.emptyObject s.kubelet)))
  | some observed => opts.own (← c.mutate s' spec observed)

variable {x : Setting} {c : Component} {s : Surroundings} {spec : Agent.Spec}
  {opts : ApplyOptions} {w w' : Scene}

/-- Every component but the secret of the enforcer asks for nothing. -/
theorem desired_of_ne {source : Object} (hc : c ≠ .enforcerTls) :
    c.desired s spec source = Task.ofExcept (c.mutate s spec source) := by
  cases c <;> first | rfl | exact absurd rfl hc

/-- The secret asks for a certificate, once it is known to be one. -/
theorem desired_of_secret {source : Object} (hc : c = .enforcerTls)
    (hkind : source.kind = .secret) :
    c.desired s spec source = Task.ask (.issueTls (enforcerServiceKey spec)) >>= fun tls =>
      Task.ofExcept (c.mutate { s with issued := .ok tls } spec source) := by
  subst hc
  obtain ⟨secret, hsecret⟩ := exists_asSecret hkind
  unfold Component.desired Component.surroundings
  rw [hsecret]
  show (Task.issueTls _ >>= fun tls => pure { s with issued := .ok tls }) >>= _ = _
  rw [bind_assoc]
  rfl

/-- An object that is no secret is refused, and the issuer is not asked. -/
theorem desired_of_not_secret {source : Object} (hc : c = .enforcerTls)
    (hkind : source.kind ≠ .secret) :
    c.desired s spec source = Task.ofExcept (.error (.unexpectedKind .secret source.kind)) := by
  subst hc
  unfold Component.desired Component.surroundings
  rw [asSecret_of_kind_ne hkind]
  rfl

/-- An object of the component's kind is not refused before the certificate is asked for. -/
theorem runIn_surroundings {source : Object} (hkind : source.kind = c.kind) (w : Scene) :
    Task.runIn x (c.surroundings s spec source) w = (x.surroundings c s spec, w) := by
  cases c <;> try rfl
  obtain ⟨secret, hsecret⟩ := exists_asSecret hkind
  unfold Component.surroundings Setting.surroundings
  simp only [Task.runIn_bind, hsecret, Task.runIn_ofExcept, Task.runIn_issueTls]
  cases x.certificate (enforcerServiceKey spec) <;> rfl

/-- What is wanted is computed from an object and finished by `f`, with nothing
asked of the store. -/
theorem runIn_desired {α : Type} (f : Object → Object) {source : Object}
    (hkind : source.kind = c.kind) (k : Object → Task α) (w : Scene) :
    Task.runIn x (do
      let o ← c.desired s spec source
      let o ← Task.ofExcept (opts.own (f o))
      k o) w =
    match (do
      let s' ← x.surroundings c s spec
      opts.own (f (← c.mutate s' spec source)) : Except Error Object) with
    | .ok o => Task.runIn x (k o) w
    | .error e => (.error e, w) := by
  unfold Component.desired
  simp only [Task.runIn_bind, runIn_surroundings hkind, Task.runIn_ofExcept]
  cases x.surroundings c s spec with
  | error e => rfl
  | ok s' =>
    simp only [bind, Except.bind]
    cases c.mutate s' spec source with
    | error e => rfl
    | ok o =>
      dsimp only
      cases opts.own (f o) <;> rfl

/-- A component without an object is made under its key. -/
theorem runIn_wanted_none {α : Type} (k : Object → Task α) (w : Scene) :
    Task.runIn x (do
      let o ← c.desired s spec (c.emptyObject s.kubelet)
      let o ← Task.ofExcept (opts.own (named (c.key spec) o))
      k o) w =
    match x.wanted c s spec opts none with
    | .ok o => Task.runIn x (k o) w
    | .error e => (.error e, w) :=
  runIn_desired (named (c.key spec)) (emptyObject_kind c s.kubelet) k w

theorem runIn_wanted_some {α : Type} (k : Object → Task α) {observed : Object}
    (hkind : observed.kind = c.kind) (w : Scene) :
    Task.runIn x (do
      let o ← c.desired s spec observed
      let o ← Task.ofExcept (opts.own o)
      k o) w =
    match x.wanted c s spec opts (some observed) with
    | .ok o => Task.runIn x (k o) w
    | .error e => (.error e, w) :=
  runIn_desired id hkind k w

/-! ## Bringing a component to the spec -/

/-- How bringing a component to the spec can end. -/
inductive Applying (x : Setting) (c : Component) (s : Surroundings) (spec : Agent.Spec)
    (opts : ApplyOptions) (t : Table) : Except Error Applied → Table → Prop where
  /-- It could not be read, or not be made. -/
  | stopped (e : Error) : Applying x c s spec opts t (.error e) t
  /-- It is there and is not to be touched. -/
  | kept {o : Object} (hread : c.stored s.kubelet spec t = .ok (some o))
      (honly : opts.createOnly = true) : Applying x c s spec opts t (.ok ⟨false, o⟩) t
  /-- It is as it should be. -/
  | same {o : Object} (hread : c.stored s.kubelet spec t = .ok (some o))
      (honly : opts.createOnly = false) (hwanted : x.wanted c s spec opts (some o) = .ok o) :
      Applying x c s spec opts t (.ok ⟨false, o⟩) t
  /-- It could not be written. -/
  | unwritten {found : Option Object} {o : Object} (e : Error)
      (hread : c.stored s.kubelet spec t = .ok found)
      (hwanted : x.wanted c s spec opts found = .ok o) : Applying x c s spec opts t (.error e) t
  | written {found : Option Object} {o : Object} (hread : c.stored s.kubelet spec t = .ok found)
      (hwanted : x.wanted c s spec opts found = .ok o) (hchanged : found ≠ some o)
      (hfresh : opts.createOnly = true → found = none) :
      Applying x c s spec opts t (.ok ⟨true, o⟩) (t.put (placeOf o) o.encode)

/-- A component that is brought to the spec ends in one of these ways. -/
theorem applying_of_runIn {r : Except Error Applied}
    (h : Task.runIn x (apply c s spec opts) w = (r, w')) :
    Applying x c s spec opts w.store r w'.store := by
  unfold apply at h
  rcases Task.runIn_bind_eq.1 h with ⟨e, hget, rfl⟩ | ⟨found, w₁, hget, hnext⟩
  · obtain ⟨hstore, -⟩ := Setting.call_get hget
    rw [hstore]
    exact .stopped e
  obtain ⟨hstore, hfound⟩ := Setting.call_get hget
  have hread := hfound found rfl
  rw [← hstore]
  cases found with
  | none =>
    replace hnext := (runIn_wanted_none _ w₁).symm.trans hnext
    cases hwanted : x.wanted c s spec opts none with
    | error e =>
      rw [hwanted] at hnext
      cases hnext
      exact .stopped e
    | ok o =>
      rw [hwanted] at hnext
      rcases Setting.write_eq (c := .create o) rfl hnext with ⟨⟨e, rfl⟩, hsame⟩ | ⟨rfl, hput⟩
      · rw [hsame]
        exact .unwritten e (hstore ▸ hread) hwanted
      · rw [hput]
        exact .written (hstore ▸ hread) hwanted nofun fun _ => rfl
  | some observed =>
    by_cases honly : opts.createOnly = true
    · simp only [honly, if_true] at hnext
      cases hnext
      exact .kept (hstore ▸ hread) honly
    · simp only [honly, Bool.false_eq_true, if_false] at hnext
      replace hnext := (runIn_wanted_some _ (stored_kind hread) w₁).symm.trans hnext
      cases hwanted : x.wanted c s spec opts (some observed) with
      | error e =>
        rw [hwanted] at hnext
        cases hnext
        exact .stopped e
      | ok o =>
        rw [hwanted] at hnext
        by_cases hsame : o = observed
        · simp only [hsame, if_true] at hnext
          cases hnext
          exact .same (hstore ▸ hread) (Bool.eq_false_iff.2 honly) (hsame ▸ hwanted)
        · simp only [hsame, if_false] at hnext
          rcases Setting.write_eq (c := .update o) rfl hnext with ⟨⟨e, rfl⟩, hkept⟩ | ⟨rfl, hput⟩
          · rw [hkept]
            exact .unwritten e (hstore ▸ hread) hwanted
          · rw [hput]
            refine .written (hstore ▸ hread) hwanted ?_ fun hcreate => absurd hcreate honly
            intro heq
            exact hsame (Option.some.inj heq).symm

/-- A component that is there as it should be is read, and that is all. -/
theorem runIn_apply_of_same {o : Object}
    (hfailure : x.failure w.calls.length (.get (c.emptyObject s.kubelet) (c.key spec)) = none)
    (hread : c.stored s.kubelet spec w.store = .ok (some o))
    (h : opts.createOnly = true ∨ x.wanted c s spec opts (some o) = .ok o) :
    Task.runIn x (apply c s spec opts) w
      = (.ok ⟨false, o⟩, { w with
          calls := w.calls ++ [⟨.get (c.emptyObject s.kubelet) (c.key spec), false⟩] }) := by
  unfold apply
  rw [Task.runIn_bind, Setting.runIn_get_of_no_failure hfailure,
    show w.store.read (c.emptyObject s.kubelet) (c.key spec) = .ok (some o) from hread]
  dsimp only
  by_cases honly : opts.createOnly = true
  · rw [if_pos honly]
    rfl
  · rw [if_neg honly]
    refine (runIn_wanted_some _ (stored_kind hread) _).trans ?_
    rw [h.resolve_left honly]
    dsimp only
    rw [if_pos rfl]
    rfl

/-- A write is counted, and nothing else is remembered of it. -/
theorem runIn_applied (m : Memory) (w : Scene) :
    Pass.runIn x (Pass.applied c s spec opts) m w =
      match Task.runIn x (apply c s spec opts) w with
      | (.ok a, w₁) =>
        ((.ok a, if a.changed then { m with metrics := m.metrics.countApplied c.label } else m), w₁)
      | (.error e, w₁) => ((.error e, m), w₁) := by
  unfold Pass.applied
  rw [Pass.runIn_bind, Pass.runIn_ofTask]
  rcases Task.runIn x (apply c s spec opts) w with ⟨_ | a, w₁⟩
  · rfl
  · dsimp only
    by_cases ha : a.changed = true
    · simp only [ha, if_true]
      rfl
    · simp only [ha, Bool.false_eq_true, if_false]
      rfl

theorem applying_of_applied {m m' : Memory} {r : Except Error Applied}
    (h : Pass.runIn x (Pass.applied c s spec opts) m w = ((r, m'), w')) :
    m'.kubelet = m.kubelet ∧ Applying x c s spec opts w.store r w'.store := by
  rw [runIn_applied] at h
  rcases happly : Task.runIn x (apply c s spec opts) w with ⟨_ | a, w₁⟩ <;>
    rw [happly] at h <;> cases h
  · exact ⟨rfl, applying_of_runIn happly⟩
  · refine ⟨?_, applying_of_runIn happly⟩
    split <;> rfl

/-! ## Deleting a component -/

/-- How deleting a component can end. -/
inductive Deleting (c : Component) (kubelet : String) (spec : Agent.Spec) (t : Table) :
    Except Error Bool → Table → Prop where
  /-- It could not be read, or not be deleted. -/
  | stopped (e : Error) : Deleting c kubelet spec t (.error e) t
  | absent (hread : c.stored kubelet spec t = .ok none) : Deleting c kubelet spec t (.ok false) t
  | deleted {o : Object} (hread : c.stored kubelet spec t = .ok (some o)) :
    Deleting c kubelet spec t (.ok true) (t.erase (placeOf o))

theorem deleting_of_runIn {kubelet : String} {r : Except Error Bool}
    (h : Task.runIn x (deleteIfExists c kubelet spec) w = (r, w')) :
    Deleting c kubelet spec w.store r w'.store := by
  unfold deleteIfExists at h
  rcases Task.runIn_bind_eq.1 h with ⟨e, hget, rfl⟩ | ⟨found, w₁, hget, hnext⟩
  · obtain ⟨hstore, -⟩ := Setting.call_get hget
    rw [hstore]
    exact .stopped e
  obtain ⟨hstore, hfound⟩ := Setting.call_get hget
  have hread := hfound found rfl
  cases found with
  | none =>
    cases hnext
    rw [hstore]
    exact .absent hread
  | some o =>
    rcases Setting.write_eq (c := .delete o) rfl hnext with ⟨⟨e, rfl⟩, hkept⟩ | ⟨rfl, herased⟩
    · rw [hkept, hstore]
      exact .stopped e
    · rw [herased, hstore]
      exact .deleted hread

/-- A component that is not there is looked for, and that is all. -/
theorem runIn_deleteIfExists_of_absent {kubelet : String}
    (hfailure : x.failure w.calls.length (.get (c.emptyObject kubelet) (c.key spec)) = none)
    (hread : c.stored kubelet spec w.store = .ok none) :
    Task.runIn x (deleteIfExists c kubelet spec) w
      = (.ok false, { w with
          calls := w.calls ++ [⟨.get (c.emptyObject kubelet) (c.key spec), false⟩] }) := by
  unfold deleteIfExists
  rw [Task.runIn_bind, Setting.runIn_get_of_no_failure hfailure,
    show w.store.read (c.emptyObject kubelet) (c.key spec) = .ok none from hread]
  rfl

/-! ## What other places see -/

theorem withMetadata_kind (o : Object) (m : ObjectMeta) : (o.withMetadata m).kind = o.kind := by
  cases o <;> rfl

theorem own_kind {o o' : Object} (h : opts.own o = .ok o') : o'.kind = o.kind := by
  unfold ApplyOptions.own at h
  split at h
  · cases h
    rfl
  · obtain ⟨m, -, rfl⟩ := Except.map_eq_ok.1 h
    exact withMetadata_kind o m

theorem Component.Change.kind_eq {o o₁ : Object} (h : Component.Change s spec c o o₁) :
    o₁.kind = c.kind := by
  cases h with
  | deployment d hp =>
    cases c <;> simp only [Component.deploymentPlan?, reduceCtorEq] at hp <;> rfl
  | service d hp =>
    cases c <;> simp only [Component.servicePlan?, reduceCtorEq] at hp <;> rfl
  | _ => rfl

/-- What a component wants is of its kind. -/
theorem wanted_kind {found : Option Object} {o : Object}
    (h : x.wanted c s spec opts found = .ok o) : o.kind = c.kind := by
  obtain ⟨s', -, h⟩ := Except.bind_eq_ok.1 h
  cases found with
  | none =>
    obtain ⟨o₁, hmutate, hown⟩ := Except.bind_eq_ok.1 h
    rw [own_kind hown, named, withMetadata_kind]
    exact (Component.change_of_mutate hmutate).kind_eq
  | some observed =>
    obtain ⟨o₁, hmutate, hown⟩ := Except.bind_eq_ok.1 h
    rw [own_kind hown]
    exact (Component.change_of_mutate hmutate).kind_eq

/-- What is answered about a component is of its kind. -/
theorem Applying.kind {t t' : Table} {a : Applied} (h : Applying x c s spec opts t (.ok a) t') :
    a.object.kind = c.kind := by
  cases h with
  | kept hread => exact stored_kind hread
  | same hread => exact stored_kind hread
  | written hread hwanted => exact wanted_kind hwanted

/-- Objects of other kinds stay as they were. -/
theorem Applying.get?_of_kind_ne {t t' : Table} {r : Except Error Applied}
    (h : Applying x c s spec opts t r t') {p : Place} (hp : p.kind ≠ c.kind) :
    t'.get? p = t.get? p := by
  cases h with
  | written hread hwanted hchanged hfresh =>
    have hne : placeOf _ ≠ p := fun heq => hp (heq ▸ wanted_kind hwanted)
    rw [Table.get?_put, if_neg hne]
  | _ => rfl

theorem Deleting.get?_of_kind_ne {kubelet : String} {t t' : Table} {r : Except Error Bool}
    (h : Deleting c kubelet spec t r t') {p : Place} (hp : p.kind ≠ c.kind) :
    t'.get? p = t.get? p := by
  cases h with
  | deleted hread =>
    have hne : placeOf _ ≠ p := fun heq => hp (heq ▸ stored_kind hread)
    rw [Table.get?_erase, if_neg hne]
  | _ => rfl

end AgentOperator.Dataplane
