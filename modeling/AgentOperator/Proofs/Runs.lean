import AgentOperator.Dataplane.Pass
import AgentOperator.Dataplane.World

/-!
AgentOperator.Proofs.Runs — work on the dataplane run against a store whose
calls may fail.

A `Setting` says what the outside is like while one pass runs: which calls to
the store fail, call by call, and what the cluster and the issuer of
certificates answer. Each of the latter is asked for at most once in a pass, so
one answer each is no restriction. A `Scene` is the store with the calls made
to it so far; a call that fails leaves the store as it was.

A run is a plain equation, `Pass.runIn x p m w = ((r, m'), w')`, and the lemmas
of this module take such equations apart, one construct of a pass at a time. A
`World` is a setting too: work runs against it as it does in `World.setting`
(`World.Mirrors.run`).
-/

namespace AgentOperator.Store.Table

open Kube (Object ObjectKey)

/-- What is read under a key, as an object of the kind and API generation of a
template. -/
def read (t : Table) (template : Object) (key : ObjectKey) : Except Error (Option Object) :=
  (t.answer (.get template key)).1

theorem read_of_none {t : Table} {template : Object} {key : ObjectKey}
    (h : t.get? ⟨template.kind, key⟩ = none) : t.read template key = .ok none := by
  simp only [read, answer, h]
  rfl

theorem read_of_some {t : Table} {template : Object} {key : ObjectKey} {j : Json}
    (h : t.get? ⟨template.kind, key⟩ = some j) :
    t.read template key = some <$> template.decodeLike j := by
  simp only [read, answer, h]
  rfl

/-- No reading changes the store. -/
theorem answer_get_snd (t : Table) (template : Object) (key : ObjectKey) :
    (t.answer (.get template key)).2 = t := by
  cases h : t.get? ⟨template.kind, key⟩ <;> simp only [answer, h]

/-- Only the value at its place matters to a reading. -/
theorem read_congr {t u : Table} {template : Object} {key : ObjectKey}
    (h : u.get? ⟨template.kind, key⟩ = t.get? ⟨template.kind, key⟩) :
    u.read template key = t.read template key := by
  cases ht : t.get? ⟨template.kind, key⟩ with
  | none => rw [read_of_none ht, read_of_none (h.trans ht)]
  | some j => rw [read_of_some ht, read_of_some (h.trans ht)]

theorem get?_of_read_eq_none {t : Table} {template : Object} {key : ObjectKey}
    (h : t.read template key = .ok none) : t.get? ⟨template.kind, key⟩ = none := by
  cases ht : t.get? ⟨template.kind, key⟩ with
  | none => rfl
  | some j =>
    rw [read_of_some ht] at h
    cases hj : template.decodeLike j <;> rw [hj] at h <;> cases h

theorem get?_of_read_eq_some {t : Table} {template o : Object} {key : ObjectKey}
    (h : t.read template key = .ok (some o)) :
    ∃ j, t.get? ⟨template.kind, key⟩ = some j ∧ template.decodeLike j = .ok o := by
  cases ht : t.get? ⟨template.kind, key⟩ with
  | none =>
    rw [read_of_none ht] at h
    cases h
  | some j =>
    rw [read_of_some ht] at h
    refine ⟨j, rfl, ?_⟩
    cases hj : template.decodeLike j with
    | error e =>
      rw [hj] at h
      cases h
    | ok o' =>
      rw [hj] at h
      cases h
      rfl

end AgentOperator.Store.Table

namespace AgentOperator.Dataplane

open Kube (Object ObjectKey)
open Store (Call Place Table)

/-! ## Settings and scenes -/

/-- The outside during one pass. -/
structure Setting where
  /-- The error of a call, given how many calls were made before it, if it is
  to fail. -/
  failure : Nat → Call → Option Error
  kubelet : Except Error String
  nodes : Except Error UInt64
  certificate : ObjectKey → Except Error TlsMaterial

/-- A call that was made. -/
structure Made where
  call : Call
  failed : Bool

/-- The store, and the calls made to it so far. -/
structure Scene where
  store : Table
  calls : List Made := []

namespace Setting

/-- The setting with a store that does not fail. -/
def calm (x : Setting) : Setting := { x with failure := fun _ _ => none }

/-- A cluster of three nodes, and nothing that fails. -/
def steady : Setting where
  failure _ _ := none
  kubelet := .ok "v1.20.0"
  nodes := .ok 3
  certificate _ := .ok default

/-- Answers a call to the store. -/
def call (x : Setting) (c : Call) (w : Scene) : Except Error c.Result × Scene :=
  match x.failure w.calls.length c with
  | some e => (.error e, { w with calls := w.calls ++ [⟨c, true⟩] })
  | none => ((w.store.answer c).1, ⟨(w.store.answer c).2, w.calls ++ [⟨c, false⟩]⟩)

/-- Answers a request. -/
def answer (x : Setting) : (r : Request) → StateM Scene (outside.Reply r)
  | .store c => fun w => x.call c w
  | .kubeletVersion => fun w => (x.kubelet, w)
  | .nodeCount => fun w => (x.nodes, w)
  | .issueTls service => fun w => (x.certificate service, w)

end Setting

/-! ## Tasks -/

namespace Task

variable {α β : Type} {x : Setting} {w w' : Scene}

/-- What becomes of a task, and the scene it leaves behind. -/
def runIn (x : Setting) (t : Task α) (w : Scene) : Except Error α × Scene :=
  (t.run.run x.answer) w

@[simp] theorem runIn_pure (a : α) : runIn x (pure a) w = (.ok a, w) := rfl

@[simp] theorem runIn_ofExcept (r : Except Error α) : runIn x (ofExcept r) w = (r, w) := rfl

theorem runIn_get (template : Object) (key : ObjectKey) :
    runIn x (get template key) w = x.call (.get template key) w := rfl

@[simp] theorem runIn_kubeletVersion : runIn x kubeletVersion w = (x.kubelet, w) := rfl

@[simp] theorem runIn_nodeCount : runIn x nodeCount w = (x.nodes, w) := rfl

@[simp] theorem runIn_issueTls (service : ObjectKey) :
    runIn x (issueTls service) w = (x.certificate service, w) := rfl

theorem runIn_bind (t : Task α) (k : α → Task β) :
    runIn x (t >>= k) w =
      match runIn x t w with
      | (.ok a, w₁) => runIn x (k a) w₁
      | (.error e, w₁) => (.error e, w₁) := by
  have hrun := congrFun (Script.run_bind (I := outside) x.answer t.run (ExceptT.bindCont k)) w
  refine hrun.trans ?_
  show (match runIn x t w with
    | (r, w₁) => (ExceptT.bindCont k r).run (I := outside) x.answer w₁) = _
  rcases runIn x t w with ⟨r, w₁⟩
  cases r <;> rfl

/-- What a task went through: it stopped at its first part, or went on with its
result. -/
theorem runIn_bind_eq {t : Task α} {k : α → Task β} {r : Except Error β} :
    runIn x (t >>= k) w = (r, w') ↔
      (∃ e, runIn x t w = (.error e, w') ∧ r = .error e) ∨
        ∃ a w₁, runIn x t w = (.ok a, w₁) ∧ runIn x (k a) w₁ = (r, w') := by
  rw [runIn_bind]
  rcases runIn x t w with ⟨_ | a, w₁⟩
  · simp only [Prod.mk.injEq, Except.error.injEq, reduceCtorEq, false_and, exists_false, or_false]
    constructor
    · rintro ⟨rfl, rfl⟩
      exact ⟨_, ⟨rfl, rfl⟩, rfl⟩
    · rintro ⟨e, ⟨rfl, rfl⟩, rfl⟩
      exact ⟨rfl, rfl⟩
  · simp only [Prod.mk.injEq, reduceCtorEq, false_and, exists_false, false_or, Except.ok.injEq]
    constructor
    · intro hk
      exact ⟨a, w₁, ⟨rfl, rfl⟩, hk⟩
    · rintro ⟨_, _, ⟨rfl, rfl⟩, hk⟩
      exact hk

end Task

/-! ## Passes -/

namespace Pass

variable {α β : Type} {x : Setting} {m m' : Memory} {w w' : Scene}

/-- What becomes of a pass, what is remembered after it, and the scene it
leaves behind. -/
def runIn (x : Setting) (p : Pass α) (m : Memory) (w : Scene) :
    (Except Error α × Memory) × Scene :=
  ((p.run.run m).run x.answer) w

@[simp] theorem runIn_pure (a : α) : runIn x (pure a) m w = ((.ok a, m), w) := rfl

@[simp] theorem runIn_get : runIn x get m w = ((.ok m, m), w) := rfl

theorem runIn_bind (p : Pass α) (k : α → Pass β) :
    runIn x (p >>= k) m w =
      match runIn x p m w with
      | ((.ok a, m₁), w₁) => runIn x (k a) m₁ w₁
      | ((.error e, m₁), w₁) => ((.error e, m₁), w₁) := by
  have hrun := congrFun (Script.run_bind (I := outside) x.answer (p.run.run m)
    fun r => (ExceptT.bindCont k r.1).run r.2) w
  refine hrun.trans ?_
  show (match runIn x p m w with
    | (r, w₁) => ((ExceptT.bindCont k r.1).run r.2).run (I := outside) x.answer w₁) = _
  rcases runIn x p m w with ⟨⟨r, m₁⟩, w₁⟩
  cases r <;> rfl

/-- What is done with a result when failures are caught. -/
def caught (k : Error → Pass α) : Except Error α → StateT Memory (Script outside) (Except Error α)
  | .ok a => pure (.ok a)
  | .error e => k e

theorem tryCatch_eq (p : Pass α) (k : Error → Pass α) :
    (tryCatch p k : Pass α) = ExceptT.mk (p.run >>= caught k) := by
  show ExceptT.tryCatch p k = _
  unfold ExceptT.tryCatch
  congr 2
  funext r
  cases r <;> rfl

theorem runIn_tryCatch (p : Pass α) (k : Error → Pass α) :
    runIn x (tryCatch p k) m w =
      match runIn x p m w with
      | ((.ok a, m₁), w₁) => ((.ok a, m₁), w₁)
      | ((.error e, m₁), w₁) => runIn x (k e) m₁ w₁ := by
  have hrun := congrFun (Script.run_bind (I := outside) x.answer (p.run.run m)
    fun r => (caught k r.1).run r.2) w
  rw [tryCatch_eq]
  refine hrun.trans ?_
  show (match runIn x p m w with
    | (r, w₁) => ((caught k r.1).run r.2).run (I := outside) x.answer w₁) = _
  rcases runIn x p m w with ⟨⟨r, m₁⟩, w₁⟩
  cases r <;> rfl

theorem runIn_ofTask (t : Task α) :
    runIn x (ofTask t) m w = (((Task.runIn x t w).1, m), (Task.runIn x t w).2) :=
  congrFun (Script.run_bind (I := outside) x.answer t.run fun r => pure (r, m)) w

@[simp] theorem ofExcept_ok_bind (a : α) (k : α → Pass β) :
    ofTask (Task.ofExcept (.ok a)) >>= k = k a := rfl

/-- What a pass went through: it stopped at its first part, or went on with its
result. -/
theorem runIn_bind_eq {p : Pass α} {k : α → Pass β} {r : Except Error β} :
    runIn x (p >>= k) m w = ((r, m'), w') ↔
      (∃ e, runIn x p m w = ((.error e, m'), w') ∧ r = .error e) ∨
        ∃ a m₁ w₁, runIn x p m w = ((.ok a, m₁), w₁) ∧
          runIn x (k a) m₁ w₁ = ((r, m'), w') := by
  rw [runIn_bind]
  rcases runIn x p m w with ⟨⟨_ | a, m₁⟩, w₁⟩
  · simp only [Prod.mk.injEq, Except.error.injEq, reduceCtorEq, false_and, exists_false, or_false]
    constructor
    · rintro ⟨⟨rfl, rfl⟩, rfl⟩
      exact ⟨_, ⟨⟨rfl, rfl⟩, rfl⟩, rfl⟩
    · rintro ⟨e, ⟨⟨rfl, rfl⟩, rfl⟩, rfl⟩
      exact ⟨⟨rfl, rfl⟩, rfl⟩
  · simp only [Prod.mk.injEq, reduceCtorEq, false_and, exists_false, false_or, Except.ok.injEq]
    constructor
    · intro hk
      exact ⟨a, m₁, w₁, ⟨⟨rfl, rfl⟩, rfl⟩, hk⟩
    · rintro ⟨_, _, _, ⟨⟨rfl, rfl⟩, rfl⟩, hk⟩
      exact hk

theorem runIn_bind_eq_ok {p : Pass α} {k : α → Pass β} {b : β} :
    runIn x (p >>= k) m w = ((.ok b, m'), w') ↔
      ∃ a m₁ w₁, runIn x p m w = ((.ok a, m₁), w₁) ∧
        runIn x (k a) m₁ w₁ = ((.ok b, m'), w') := by
  rw [runIn_bind_eq]
  simp

theorem runIn_ofTask_eq {t : Task α} {r : Except Error α} :
    runIn x (ofTask t) m w = ((r, m'), w') ↔ m' = m ∧ Task.runIn x t w = (r, w') := by
  rw [runIn_ofTask]
  rcases Task.runIn x t w with ⟨r₁, w₁⟩
  simp only [Prod.mk.injEq]
  constructor
  · rintro ⟨⟨rfl, rfl⟩, rfl⟩
    exact ⟨rfl, rfl, rfl⟩
  · rintro ⟨rfl, rfl, rfl⟩
    exact ⟨⟨rfl, rfl⟩, rfl⟩

/-- A kubelet version that is known is not asked for. -/
theorem runIn_kubeletVersion_of_known {kubelet : String} (hm : m.kubelet = some kubelet) :
    runIn x kubeletVersion m w = ((.ok kubelet, m), w) := by
  unfold kubeletVersion
  rw [runIn_bind, runIn_get]
  dsimp only
  rw [hm]
  rfl

theorem runIn_kubeletVersion_of_unknown (hm : m.kubelet = none) :
    runIn x kubeletVersion m w =
      match x.kubelet with
      | .ok version => ((.ok version, { m with kubelet := some version }), w)
      | .error e => ((.error e, m), w) := by
  unfold kubeletVersion
  rw [runIn_bind, runIn_get]
  dsimp only
  rw [hm]
  dsimp only
  rw [runIn_bind, runIn_ofTask, Task.runIn_kubeletVersion]
  cases x.kubelet <;> rfl

end Pass

/-! ## Calls -/

namespace Setting

variable {x : Setting} {w w' : Scene}

theorem call_of_failure {c : Call} {e : Error} (h : x.failure w.calls.length c = some e) :
    x.call c w = (.error e, { w with calls := w.calls ++ [⟨c, true⟩] }) := by
  rw [call, h]

theorem call_of_no_failure {c : Call} (h : x.failure w.calls.length c = none) :
    x.call c w = ((w.store.answer c).1, ⟨(w.store.answer c).2, w.calls ++ [⟨c, false⟩]⟩) := by
  rw [call, h]

/-- A call fails and leaves the store alone, or the store answers it. -/
theorem call_eq {c : Call} {r : Except Error c.Result} (h : x.call c w = (r, w')) :
    ((∃ e, r = .error e) ∧ w'.store = w.store) ∨ w.store.answer c = (r, w'.store) := by
  cases hf : x.failure w.calls.length c with
  | some e =>
    rw [call_of_failure hf] at h
    obtain ⟨rfl, rfl⟩ := Prod.mk.inj h
    exact .inl ⟨⟨e, rfl⟩, rfl⟩
  | none =>
    rw [call_of_no_failure hf] at h
    obtain ⟨rfl, rfl⟩ := Prod.mk.inj h
    exact .inr rfl

/-- A reading that succeeds tells what is stored. -/
theorem call_get {template : Object} {key : ObjectKey} {r : Except Error (Option Object)}
    (h : x.call (.get template key) w = (r, w')) :
    w'.store = w.store ∧ ∀ found, r = .ok found → w.store.read template key = .ok found := by
  rcases call_eq h with ⟨⟨e, rfl⟩, hstore⟩ | hanswer
  · exact ⟨hstore, fun found hfound => by cases hfound⟩
  · refine ⟨?_, fun found hfound => ?_⟩
    · rw [← w.store.answer_get_snd template key, hanswer]
    · subst hfound
      exact congrArg Prod.fst hanswer

theorem runIn_get_of_no_failure {template : Object} {key : ObjectKey}
    (h : x.failure w.calls.length (.get template key) = none) :
    Task.runIn x (Task.get template key) w
      = (w.store.read template key, { w with calls := w.calls ++ [⟨.get template key, false⟩] }) := by
  rw [Task.runIn_get, call_of_no_failure h, Table.answer_get_snd]
  rfl

/-- A write that is followed by no more than an answer fails and leaves the store
alone, or leaves it as the store answers. -/
theorem write_eq {α : Type} {c : Call} {u : c.Result} {t : Table}
    (hc : w.store.answer c = (.ok u, t)) {a : α} {r : Except Error α}
    (h : Task.runIn x (Task.ask (.store c) >>= fun _ => pure a) w = (r, w')) :
    ((∃ e, r = .error e) ∧ w'.store = w.store) ∨ r = .ok a ∧ w'.store = t := by
  rcases Task.runIn_bind_eq.1 h with ⟨e, hcall, rfl⟩ | ⟨_, w₁, hcall, hdone⟩
  · rcases call_eq hcall with ⟨-, hsame⟩ | hanswer
    · exact .inl ⟨⟨e, rfl⟩, hsame⟩
    · cases hc.symm.trans hanswer
  · cases hdone
    rcases call_eq hcall with ⟨⟨e, hfailed⟩, -⟩ | hanswer
    · cases hfailed
    · exact .inr ⟨rfl, (congrArg Prod.snd (hc.symm.trans hanswer)).symm⟩

end Setting

/-! ## The record of calls -/

/-- What every call to the store does to the scene, a whole script does, however
it goes on. -/
theorem run_induction {α : Type} {x : Setting} {P : Scene → Scene → Prop} (hrefl : ∀ w, P w w)
    (htrans : ∀ u v w, P u v → P v w → P u w) (hcall : ∀ c w, P w (x.call c w).2)
    (s : Script outside α) (w : Scene) : P w (s.run x.answer w).2 := by
  induction s generalizing w with
  | done a => exact hrefl w
  | ask r next ih =>
    have hask : P w (x.answer r w).2 := by
      cases r with
      | store c => exact hcall c w
      | kubeletVersion => exact hrefl w
      | nodeCount => exact hrefl w
      | issueTls service => exact hrefl w
    exact htrans _ _ _ hask (ih (x.answer r w).1 (x.answer r w).2)

theorem Setting.call_calls (x : Setting) (c : Call) (w : Scene) :
    (x.call c w).2.calls = w.calls ++ [⟨c, (x.failure w.calls.length c).isSome⟩] := by
  unfold call
  cases x.failure w.calls.length c <;> rfl

/-- Calls are added at the end of the record. -/
theorem run_calls_isPrefix {α : Type} (x : Setting) (s : Script outside α) (w : Scene) :
    w.calls <+: (s.run x.answer w).2.calls := by
  refine run_induction (P := fun w w' => w.calls <+: w'.calls) (fun w => List.prefix_refl _)
    (fun _ _ _ => List.IsPrefix.trans) (fun c w => ?_) s w
  rw [x.call_calls]
  exact List.prefix_append ..

theorem Task.calls_isPrefix {α : Type} {x : Setting} {t : Task α} {w w' : Scene}
    {r : Except Error α} (h : runIn x t w = (r, w')) : w.calls <+: w'.calls := by
  have hlog := run_calls_isPrefix x t.run w
  rwa [show (t.run.run x.answer w).2 = w' from congrArg Prod.snd h] at hlog

theorem Pass.calls_isPrefix {α : Type} {x : Setting} {p : Pass α} {m m' : Memory} {w w' : Scene}
    {r : Except Error α} (h : runIn x p m w = ((r, m'), w')) : w.calls <+: w'.calls := by
  have hlog := run_calls_isPrefix x (p.run.run m) w
  rwa [show ((p.run.run m).run x.answer w).2 = w' from congrArg Prod.snd h] at hlog

/-- No call on a place failed. -/
def Spared (p : Place) (calls : List Made) : Prop :=
  ∀ made ∈ calls, made.call.place = p → made.failed = false

theorem Spared.of_isPrefix {p : Place} {calls calls' : List Made} (h : Spared p calls')
    (hlog : calls <+: calls') : Spared p calls :=
  fun made hmade => h made (hlog.subset hmade)

/-- A call on a place that is spared is answered by the store. -/
theorem Setting.call_of_spared {x : Setting} {c : Call} {w : Scene}
    (h : Spared c.place (x.call c w).2.calls) :
    x.call c w = ((w.store.answer c).1, ⟨(w.store.answer c).2, w.calls ++ [⟨c, false⟩]⟩) := by
  rw [x.call_calls] at h
  have hnone := h ⟨c, _⟩ (List.mem_append_right _ (List.mem_singleton_self _)) rfl
  exact call_of_no_failure (Option.isSome_eq_false_iff.1 hnone |> Option.isNone_iff_eq_none.1)

/-- A reading that is spared tells what is stored. -/
theorem Setting.get_of_spared {x : Setting} {template : Object} {key : ObjectKey} {w w' : Scene}
    {r : Except Error (Option Object)} (h : x.call (.get template key) w = (r, w'))
    (hspared : Spared ⟨template.kind, key⟩ w'.calls) :
    r = w.store.read template key ∧ w'.store = w.store := by
  rw [← show (x.call (.get template key) w).2 = w' from congrArg Prod.snd h] at hspared
  rw [call_of_spared (c := .get template key) hspared] at h
  obtain ⟨rfl, rfl⟩ := Prod.mk.inj h
  exact ⟨rfl, w.store.answer_get_snd template key⟩

theorem Setting.delete_of_spared {x : Setting} {o : Object} {w w' : Scene} {r : Except Error Unit}
    (h : x.call (.delete o) w = (r, w')) (hspared : Spared (Store.placeOf o) w'.calls) :
    r = .ok () ∧ w'.store = w.store.erase (Store.placeOf o) := by
  rw [← show (x.call (.delete o) w).2 = w' from congrArg Prod.snd h] at hspared
  rw [call_of_spared (c := .delete o) hspared] at h
  obtain ⟨rfl, rfl⟩ := Prod.mk.inj h
  exact ⟨rfl, rfl⟩

/-- An outside in which no call on a place fails spares it. -/
theorem Pass.spared_of_failure {α : Type} {x : Setting} {p : Place}
    (hx : ∀ n c, c.place = p → x.failure n c = none) {pass : Pass α} {m : Memory} {t : Table}
    {r : Except Error α} {m' : Memory} {w' : Scene} (h : runIn x pass m ⟨t, []⟩ = ((r, m'), w')) :
    Spared p w'.calls := by
  rw [← show ((pass.run.run m).run x.answer ⟨t, []⟩).2 = w' from congrArg Prod.snd h]
  refine run_induction (P := fun w w' => Spared p w.calls → Spared p w'.calls) (fun _ => id)
    (fun _ _ _ huv hvw hu => hvw (huv hu)) (fun c w hw => ?_) _ ⟨t, []⟩ fun _ hmade => (by cases hmade)
  rw [x.call_calls]
  intro made hmade hplace
  rcases List.mem_append.1 hmade with hmade | hmade
  · exact hw made hmade hplace
  · cases List.mem_singleton.1 hmade
    rw [hx _ c hplace]
    rfl

/-! ## Worlds -/

/-- The setting that a world is. -/
def World.setting (w : World) : Setting where
  failure _ c := if w.outages.any (·.covers c) then some (Store.unavailable c) else none
  kubelet := (World.answer .kubeletVersion w).1
  nodes := (World.answer .nodeCount w).1
  certificate service := (World.answer (.issueTls service) w).1

/-- What a world writes down of a call. -/
def Made.write? (made : Made) : Option Write :=
  if made.call.isWrite then
    some ⟨made.call.verb, made.call.kind, made.call.key, made.failed⟩
  else none

/-- A world and a scene of its setting to which the same has happened. -/
structure World.Mirrors (w : World) (x : Setting) (v : Scene) : Prop where
  setting : w.setting = x
  store : w.store = v.store
  writes : w.writes = v.calls.filterMap Made.write?

theorem World.Mirrors.call {w : World} {x : Setting} {v : Scene} (h : w.Mirrors x v) (c : Call) :
    (w.call c).1 = (x.call c v).1 ∧ (w.call c).2.Mirrors x (x.call c v).2 := by
  obtain ⟨rfl, hstore, hwrites⟩ := h
  have hrecord (failed : Bool) :
      (if c.isWrite then { w with writes := w.writes ++ [⟨c.verb, c.kind, c.key, failed⟩] }
        else w : World) =
        { w with writes := (v.calls ++ [(⟨c, failed⟩ : Made)]).filterMap Made.write? } := by
    rw [List.filterMap_append, ← hwrites]
    cases hc : c.isWrite <;> simp [Made.write?, hc]
  by_cases hfails : w.outages.any (·.covers c)
  · have hfailure : w.setting.failure v.calls.length c = some (Store.unavailable c) := if_pos hfails
    rw [Setting.call_of_failure hfailure, World.call]
    dsimp only
    rw [hfails, hrecord true]
    exact ⟨rfl, rfl, hstore, rfl⟩
  · have hfailure : w.setting.failure v.calls.length c = none := if_neg hfails
    rw [Setting.call_of_no_failure hfailure, World.call]
    dsimp only
    rw [Bool.not_eq_true] at hfails
    rw [hfails, hrecord false, ← hstore]
    exact ⟨rfl, rfl, rfl, rfl⟩

/-- Work runs against a world as it does in the setting that the world is. -/
theorem World.Mirrors.run {α : Type} {w : World} {x : Setting} {v : Scene} (h : w.Mirrors x v)
    (s : Script outside α) :
    (s.run World.answer w).1 = (s.run x.answer v).1 ∧
      (s.run World.answer w).2.Mirrors x (s.run x.answer v).2 := by
  induction s generalizing w v with
  | done a => exact ⟨rfl, h⟩
  | ask r next ih =>
    obtain ⟨hreply, hmirrors⟩ : (World.answer r w).1 = (x.answer r v).1 ∧
        (World.answer r w).2.Mirrors x (x.answer r v).2 := by
      cases r with
      | store c => exact h.call c
      | _ =>
        obtain ⟨rfl, hstore, hwrites⟩ := h
        exact ⟨rfl, rfl, hstore, hwrites⟩
    have hrun : (Script.ask r next).run World.answer w =
        (next (World.answer r w).1).run World.answer (World.answer r w).2 := rfl
    rw [hrun, hreply]
    exact ih (x.answer r v).1 hmirrors

end AgentOperator.Dataplane
