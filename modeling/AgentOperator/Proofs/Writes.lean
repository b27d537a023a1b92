import AgentOperator.Proofs.Applying

/-!
AgentOperator.Proofs.Writes — the writes of a run.

What a run leaves in the store is what the writes that `landed` do to it, one
after the other (`Pass.replay_of_runIn`): readings and failed calls do nothing.

Both ways of handling a component, bringing it to the spec and deleting it, read
once and then write at most once. `Setting.once` is that shape, with what is made
of the reading as a parameter (`runIn_apply`, `runIn_deleteIfExists`), so that
statements about calls need only be proved of it.
-/

namespace AgentOperator.Store.Table

open Kube (Object ObjectKey)

variable {t u : Table} {p : Place} {calls calls' : List Call}

/-! ## Calls one after the other -/

/-- What is stored after these calls. -/
def replay (t : Table) (calls : List Call) : Table := calls.foldl (fun t c => (t.answer c).2) t

@[simp] theorem replay_nil (t : Table) : t.replay [] = t := rfl

@[simp] theorem replay_cons (t : Table) (c : Call) (calls : List Call) :
    t.replay (c :: calls) = (t.answer c).2.replay calls := rfl

theorem replay_append (t : Table) (calls calls' : List Call) :
    t.replay (calls ++ calls') = (t.replay calls).replay calls' :=
  List.foldl_append

/-- A call is nothing to other places. -/
theorem get?_answer_of_ne {c : Call} (h : c.place ≠ p) : (t.answer c).2.get? p = t.get? p := by
  cases c with
  | get template key => rw [answer_get_snd]
  | create o => exact (get?_put ..).trans (if_neg h)
  | update o => exact (get?_put ..).trans (if_neg h)
  | delete o => exact (get?_erase ..).trans (if_neg h)

/-- What a call leaves at a place depends on what was there. -/
theorem get?_answer_congr (c : Call) (h : u.get? p = t.get? p) :
    (u.answer c).2.get? p = (t.answer c).2.get? p := by
  cases c with
  | get template key => rw [answer_get_snd, answer_get_snd, h]
  | create o => simp only [answer, get?_put, h]
  | update o => simp only [answer, get?_put, h]
  | delete o => simp only [answer, get?_erase, h]

theorem get?_replay_of_ne (h : ∀ c ∈ calls, c.place ≠ p) : (t.replay calls).get? p = t.get? p := by
  induction calls generalizing t with
  | nil => rfl
  | cons c calls ih =>
    obtain ⟨hc, hcalls⟩ := List.forall_mem_cons.1 h
    rw [replay_cons, ih hcalls, get?_answer_of_ne hc]

theorem get?_replay_congr (h : u.get? p = t.get? p) :
    (u.replay calls).get? p = (t.replay calls).get? p := by
  induction calls generalizing t u with
  | nil => exact h
  | cons c calls ih => exact ih (get?_answer_congr c h)

end AgentOperator.Store.Table

namespace AgentOperator.Dataplane

open Kube (Object ObjectKey)
open Store (Call Place Table placeOf)

/-! ## Writes that landed -/

/-- The call, if it is a write that did not fail. -/
def Made.landed? (made : Made) : Option Call :=
  if made.call.isWrite && !made.failed then some made.call else none

/-- The writes that did not fail, in the order in which they were made. -/
def landed (calls : List Made) : List Call := calls.filterMap Made.landed?

@[simp] theorem landed_append (calls calls' : List Made) :
    landed (calls ++ calls') = landed calls ++ landed calls' :=
  List.filterMap_append

@[simp] theorem landed_failed (c : Call) : landed [⟨c, true⟩] = [] := by
  simp [landed, Made.landed?]

@[simp] theorem landed_get (template : Object) (key : ObjectKey) (failed : Bool) :
    landed [⟨.get template key, failed⟩] = [] := rfl

theorem landed_write {c : Call} (hc : c.isWrite = true) : landed [⟨c, false⟩] = [c] := by
  simp [landed, Made.landed?, hc]

theorem landed_isPrefix {calls calls' : List Made} (h : calls <+: calls') :
    landed calls <+: landed calls' :=
  h.filterMap _

/-- A call leaves the store as the write it landed does. -/
theorem Setting.call_replay (x : Setting) (c : Call) (w : Scene) :
    ∃ new, (x.call c w).2.calls = w.calls ++ new ∧
      (x.call c w).2.store = w.store.replay (landed new) := by
  cases hf : x.failure w.calls.length c with
  | some e =>
    refine ⟨[⟨c, true⟩], ?_⟩
    rw [call_of_failure hf, landed_failed]
    exact ⟨rfl, rfl⟩
  | none =>
    refine ⟨[⟨c, false⟩], ?_⟩
    rw [call_of_no_failure hf]
    refine ⟨rfl, ?_⟩
    cases hc : c.isWrite with
    | true => rw [landed_write hc, Table.replay_cons, Table.replay_nil]
    | false =>
      cases c <;> cases hc
      rw [landed_get, Table.replay_nil, Table.answer_get_snd]

/-- What a script leaves in the store is what the writes it landed do. -/
theorem run_replay {α : Type} (x : Setting) (s : Script outside α) (w : Scene) :
    ∃ new, (s.run x.answer w).2.calls = w.calls ++ new ∧
      (s.run x.answer w).2.store = w.store.replay (landed new) := by
  refine run_induction (P := fun w w' => ∃ new, w'.calls = w.calls ++ new ∧
    w'.store = w.store.replay (landed new)) ?_ ?_ (fun c w => x.call_replay c w) s w
  · intro w
    exact ⟨[], (List.append_nil _).symm, rfl⟩
  · rintro u v w ⟨new, hcalls, hstore⟩ ⟨new', hcalls', hstore'⟩
    refine ⟨new ++ new', ?_, ?_⟩
    · rw [hcalls', hcalls, List.append_assoc]
    · rw [hstore', hstore, landed_append, Table.replay_append]

theorem Pass.replay_of_runIn {α : Type} {x : Setting} {p : Pass α} {m m' : Memory} {w w' : Scene}
    {r : Except Error α} (h : runIn x p m w = ((r, m'), w')) :
    ∃ new, w'.calls = w.calls ++ new ∧ w'.store = w.store.replay (landed new) := by
  have hrun := run_replay x (p.run.run m) w
  rwa [show ((p.run.run m).run x.answer w).2 = w' from congrArg Prod.snd h] at hrun

/-! ## Reading once and writing at most once -/

section Once

variable {α : Type} {x : Setting} {template : Object} {key : ObjectKey}
  {respond : Option Object → Except Error (α × Option Call)} {w w' : Scene}

/-- Reads an object, and makes at most one more call after it: `respond` says what
is answered, and which call is made before. -/
def Setting.once (x : Setting) (template : Object) (key : ObjectKey)
    (respond : Option Object → Except Error (α × Option Call)) (w : Scene) :
    Except Error α × Scene :=
  match x.call (.get template key) w with
  | (.error e, w₁) => (.error e, w₁)
  | (.ok found, w₁) =>
    match respond found with
    | .error e => (.error e, w₁)
    | .ok (a, none) => (.ok a, w₁)
    | .ok (a, some call) =>
      match x.call call w₁ with
      | (.error e, w₂) => (.error e, w₂)
      | (.ok _, w₂) => (.ok a, w₂)

/-- The calls that were made, none of which failed. -/
def onceMade (template : Object) (key : ObjectKey) (write : Option Call) : List Made :=
  ⟨.get template key, false⟩ :: write.toList.map (⟨·, false⟩)

theorem Setting.call_get_of_no_failure
    (h : x.failure w.calls.length (.get template key) = none) :
    x.call (.get template key) w
      = (w.store.read template key, ⟨w.store, w.calls ++ [⟨.get template key, false⟩]⟩) :=
  runIn_get_of_no_failure h

/-- A call fails and lands nothing, or it is made on the store. -/
theorem Setting.call_cases (x : Setting) (c : Call) (w : Scene) :
    (∃ e new, x.call c w = (.error e, ⟨w.store, w.calls ++ new⟩) ∧ landed new = []) ∨
      ∃ a, (w.store.answer c).1 = .ok a ∧
        x.call c w = (.ok a, ⟨(w.store.answer c).2, w.calls ++ [⟨c, false⟩]⟩) := by
  cases hf : x.failure w.calls.length c with
  | some e =>
    rw [call_of_failure hf]
    exact .inl ⟨e, _, rfl, landed_failed c⟩
  | none =>
    rw [call_of_no_failure hf]
    cases ha : (w.store.answer c).1 with
    | ok a => exact .inr ⟨a, rfl, rfl⟩
    | error e =>
      -- Only a reading can be refused by the store itself.
      cases c with
      | get template key =>
        rw [Table.answer_get_snd]
        exact .inl ⟨e, _, rfl, rfl⟩
      | _ => cases ha

/-- A failure left the store alone. Otherwise no call failed. -/
theorem Setting.once_cases {r : Except Error α} (h : x.once template key respond w = (r, w')) :
    (∃ e new, r = .error e ∧ w' = ⟨w.store, w.calls ++ new⟩ ∧ landed new = []) ∨
      ∃ found a write, w.store.read template key = .ok found ∧
        respond found = .ok (a, write) ∧ r = .ok a ∧
        w' = ⟨w.store.replay write.toList, w.calls ++ onceMade template key write⟩ := by
  unfold once at h
  rcases x.call_cases (.get template key) w with ⟨e, new, hget, hnew⟩ | ⟨found, hread, hget⟩
  · rw [hget] at h
    cases h
    exact .inl ⟨e, new, rfl, rfl, hnew⟩
  rw [hget, Table.answer_get_snd] at h
  dsimp only at h
  cases hrespond : respond found with
  | error e =>
    rw [hrespond] at h
    cases h
    exact .inl ⟨e, _, rfl, rfl, rfl⟩
  | ok answer =>
    obtain ⟨a, _ | call⟩ := answer <;> rw [hrespond] at h <;> dsimp only at h
    · cases h
      exact .inr ⟨found, a, none, hread, hrespond, rfl, rfl⟩
    · rcases x.call_cases call ⟨w.store, w.calls ++ [⟨.get template key, false⟩]⟩ with
        ⟨e, new, hcall, hnew⟩ | ⟨u, -, hcall⟩ <;> rw [hcall] at h <;> cases h
      · refine .inl ⟨e, ⟨.get template key, false⟩ :: new, rfl, ?_, hnew⟩
        rw [List.append_assoc]
        rfl
      · refine .inr ⟨found, a, some call, hread, hrespond, rfl, ?_⟩
        rw [List.append_assoc]
        rfl

/-- A step asks for nothing but the reading and what is made of what was read,
whichever of the two fails. -/
theorem Setting.once_made {r : Except Error α} (h : x.once template key respond w = (r, w')) :
    ∃ new, w'.calls = w.calls ++ new ∧ ∀ made ∈ new, made.call = .get template key ∨
      ∃ found a, w.store.read template key = .ok found ∧
        respond found = .ok (a, some made.call) := by
  have hlog := x.call_calls (.get template key) w
  unfold once at h
  rcases hget : x.call (.get template key) w with ⟨e | found, w₁⟩ <;> rw [hget] at h hlog
  · cases h
    exact ⟨_, hlog, fun made hmade => .inl (by rw [List.mem_singleton.1 hmade])⟩
  have hread := (Setting.call_get hget).2 found rfl
  dsimp only at h
  rcases hrespond : respond found with e | ⟨a, _ | call⟩ <;> rw [hrespond] at h
  · cases h
    exact ⟨_, hlog, fun made hmade => .inl (by rw [List.mem_singleton.1 hmade])⟩
  · cases h
    exact ⟨_, hlog, fun made hmade => .inl (by rw [List.mem_singleton.1 hmade])⟩
  have hlog' := x.call_calls call w₁
  dsimp only at h hlog
  rcases hcall : x.call call w₁ with ⟨_ | u, w₂⟩ <;> rw [hcall] at h hlog' <;> cases h
  all_goals
    refine ⟨_, hlog'.trans (by rw [hlog, List.append_assoc]), fun made hmade => ?_⟩
    rcases List.mem_append.1 hmade with hmade | hmade <;> rw [List.mem_singleton.1 hmade]
    · exact .inl rfl
    · exact .inr ⟨found, a, hread, hrespond⟩

/-- A step is the one of the healthy store, or a call failed in it and nothing
landed. -/
theorem Setting.once_calm_or (x : Setting) (template : Object) (key : ObjectKey)
    (respond : Option Object → Except Error (α × Option Call)) (w : Scene) :
    x.once template key respond w = x.calm.once template key respond w ∨
      ∃ e new, x.once template key respond w = (.error e, ⟨w.store, w.calls ++ new⟩) ∧
        landed new = [] := by
  have hcalm (c : Call) (v : Scene) (hc : x.failure v.calls.length c = none) :
      x.call c v = x.calm.call c v := by
    rw [call_of_no_failure hc, call_of_no_failure (x := x.calm) rfl]
  unfold once
  cases hget : x.failure w.calls.length (.get template key) with
  | some e =>
    rw [call_of_failure hget]
    exact .inr ⟨e, _, rfl, rfl⟩
  | none =>
    rw [hcalm _ w hget, call_get_of_no_failure (x := x.calm) rfl]
    rcases w.store.read template key with e | found
    · exact .inl rfl
    dsimp only
    rcases respond found with e | ⟨a, _ | call⟩
    · exact .inl rfl
    · exact .inl rfl
    let v : Scene := ⟨w.store, w.calls ++ [⟨.get template key, false⟩]⟩
    cases hcall : x.failure v.calls.length call with
    | some e =>
      refine .inr ⟨e, [⟨.get template key, false⟩, ⟨call, true⟩], ?_, landed_failed call⟩
      dsimp only
      rw [call_of_failure hcall, List.append_assoc]
      rfl
    | none =>
      dsimp only
      rw [hcalm call v hcall]
      exact .inl rfl

/-- What is answered is a write, if anything. -/
def OnlyWrites (respond : Option Object → Except Error (α × Option Call)) : Prop :=
  ∀ found a call, respond found = .ok (a, some call) → call.isWrite = true

/-- Against a healthy store, the stored value decides on everything. -/
theorem Setting.once_calm (hwrites : OnlyWrites respond) :
    x.calm.once template key respond w =
      match w.store.read template key >>= respond with
      | .error e => (.error e, ⟨w.store, w.calls ++ onceMade template key none⟩)
      | .ok (a, write) =>
        (.ok a, ⟨w.store.replay write.toList, w.calls ++ onceMade template key write⟩) := by
  unfold once
  rw [call_get_of_no_failure (x := x.calm) rfl]
  rcases w.store.read template key with e | found
  · rfl
  show _ = match respond found with
    | .error e => _
    | .ok (a, write) => _
  dsimp only
  rcases hrespond : respond found with e | ⟨a, _ | call⟩
  · rfl
  · rfl
  have hwrite := hwrites found a call hrespond
  dsimp only
  rw [call_of_no_failure (x := x.calm) rfl, List.append_assoc]
  cases call <;> first | rfl | cases hwrite

theorem landed_onceMade {write : Option Call} (hwrite : ∀ call ∈ write, call.isWrite = true) :
    landed (onceMade template key write) = write.toList := by
  cases write with
  | none => rfl
  | some call => exact landed_write (hwrite call rfl)

end Once

/-! ## Components -/

variable {x : Setting} {c : Component} {s : Surroundings} {spec : Agent.Spec} {opts : ApplyOptions}
  {w : Scene} {kubelet : String}

/-- The place at which the object of a component is looked for. -/
theorem place_emptyObject (c : Component) (kubelet : String) (spec : Agent.Spec) :
    (⟨(c.emptyObject kubelet).kind, c.key spec⟩ : Place) = c.place spec := by
  rw [emptyObject_kind, Component.place]

/-- An object that is wanted in place of a stored one is written if it differs. -/
def replacement (observed o : Object) : Applied × Option Call :=
  if o = observed then (⟨false, o⟩, none) else (⟨true, o⟩, some (.update o))

/-- What is made of the object of a component that is brought to the spec. -/
def Setting.response (x : Setting) (c : Component) (s : Surroundings) (spec : Agent.Spec)
    (opts : ApplyOptions) : Option Object → Except Error (Applied × Option Call)
  | none => (fun o => (⟨true, o⟩, some (.create o))) <$> x.wanted c s spec opts none
  | some observed =>
    if opts.createOnly then .ok (⟨false, observed⟩, none)
    else replacement observed <$> x.wanted c s spec opts (some observed)

/-- A response is nothing of the store's. -/
theorem Setting.response_calm (x : Setting) (c : Component) (s : Surroundings) (spec : Agent.Spec)
    (opts : ApplyOptions) : x.calm.response c s spec opts = x.response c s spec opts := rfl

/-- What is made of the object of a component that is deleted. -/
def deletion : Option Object → Except Error (Bool × Option Call)
  | none => .ok (false, none)
  | some o => .ok (true, some (.delete o))

/-- A last call that is followed by no more than an answer. -/
theorem runIn_last {α : Type} (call : Call) (a : α) (w : Scene) :
    Task.runIn x (Task.ask (.store call) >>= fun _ => pure a) w =
      match x.call call w with
      | (.error e, w₁) => (.error e, w₁)
      | (.ok _, w₁) => (.ok a, w₁) := by
  rw [Task.runIn_bind]
  have hask : Task.runIn x (Task.ask (.store call)) w = x.call call w := rfl
  rcases hcall : x.call call w with ⟨_ | u, w₁⟩ <;> rw [hask.trans hcall]
  rfl

theorem runIn_apply (x : Setting) (c : Component) (s : Surroundings) (spec : Agent.Spec)
    (opts : ApplyOptions) (w : Scene) :
    Task.runIn x (apply c s spec opts) w
      = x.once (c.emptyObject s.kubelet) (c.key spec) (x.response c s spec opts) w := by
  unfold apply Setting.once
  rw [Task.runIn_bind, Task.runIn_get]
  rcases hget : x.call (.get (c.emptyObject s.kubelet) (c.key spec)) w with ⟨_ | _ | observed, w₁⟩
  · rfl
  · refine (runIn_wanted_none _ w₁).trans ?_
    dsimp only [Setting.response]
    cases x.wanted c s spec opts none with
    | error e => rfl
    | ok o => exact runIn_last (.create o) _ w₁
  · dsimp only [Setting.response]
    by_cases honly : opts.createOnly = true
    · rw [if_pos honly, if_pos honly]
      rfl
    · rw [if_neg honly, if_neg honly]
      have hkind := stored_kind ((Setting.call_get hget).2 _ rfl)
      refine (runIn_wanted_some _ hkind w₁).trans ?_
      cases x.wanted c s spec opts (some observed) with
      | error e => rfl
      | ok o =>
        dsimp only [Functor.map, Except.map, replacement]
        by_cases hsame : o = observed
        · rw [if_pos hsame, if_pos hsame]
          rfl
        · rw [if_neg hsame, if_neg hsame]
          exact runIn_last (.update o) _ w₁

theorem runIn_deleteIfExists (x : Setting) (c : Component) (kubelet : String) (spec : Agent.Spec)
    (w : Scene) :
    Task.runIn x (deleteIfExists c kubelet spec) w
      = x.once (c.emptyObject kubelet) (c.key spec) deletion w := by
  unfold deleteIfExists Setting.once
  rw [Task.runIn_bind, Task.runIn_get]
  rcases x.call (.get (c.emptyObject kubelet) (c.key spec)) w with ⟨_ | _ | o, w₁⟩
  · rfl
  · rfl
  · exact runIn_last (.delete o) true w₁

/-- A component that was brought to the spec was written exactly if it changed. -/
theorem response_cases {found : Option Object} {a : Applied} {write : Option Call}
    (h : x.response c s spec opts found = .ok (a, write)) :
    (a.changed = false ∧ write = none) ∨
      (a.changed = true ∧ x.wanted c s spec opts found = .ok a.object ∧
        (write = some (.create a.object) ∨ write = some (.update a.object))) := by
  unfold Setting.response at h
  cases found with
  | none =>
    obtain ⟨o, hwanted, h⟩ := Except.map_eq_ok.1 h
    cases h
    exact .inr ⟨rfl, hwanted, .inl rfl⟩
  | some observed =>
    dsimp only at h
    split at h
    · cases h
      exact .inl ⟨rfl, rfl⟩
    · obtain ⟨o, hwanted, h⟩ := Except.map_eq_ok.1 h
      unfold replacement at h
      split at h <;> cases h
      · exact .inl ⟨rfl, rfl⟩
      · exact .inr ⟨rfl, hwanted, .inr rfl⟩

theorem onlyWrites_response : OnlyWrites (x.response c s spec opts) := by
  intro found a call h
  rcases response_cases h with ⟨-, hwrite⟩ | ⟨-, -, hwrite | hwrite⟩ <;> cases hwrite <;> rfl

theorem onlyWrites_deletion : OnlyWrites deletion := by
  intro found a call h
  cases found <;> cases h
  rfl

end AgentOperator.Dataplane
