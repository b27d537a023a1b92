import AgentOperator.Proofs.Plain
import AgentOperator.Proofs.Writes

/-!
AgentOperator.Proofs.Accounting — what a pass reports of its writes.

A pass that succeeds tells whether it changed anything, and every component that
is written is counted. Both are exact: `Accounted` says so of any part of a run,
beside the calls that were made in it, and it is put together as the run is
(`accounted_bind`).

A write belongs to the component whose object was read last before it. Where
every object is stored under its own key, that is the component at whose place it
is written (`Accounted.placed`).
-/

/-- Whether the call puts an object into the store. -/
def AgentOperator.Store.Call.puts : AgentOperator.Store.Call → Bool
  | .create _ | .update _ => true
  | _ => false

namespace AgentOperator.Dataplane

open Kube (Object ObjectKey)
open Pass
open Store (Call Place Table placeOf)

/-! ## Counts -/

theorem get?_countOne (key k : String) (counts : Dict Nat) :
    ((countOne key counts).get? k).getD 0
      = (counts.get? k).getD 0 + if key = k then 1 else 0 := by
  show ((counts.insert key ((counts.get? key).getD 0 + 1)).get? k).getD 0 = _
  rw [Dict.get?_insert]
  by_cases hk : key = k
  · rw [if_pos hk, if_pos hk, hk]
    rfl
  · rw [if_neg hk, if_neg hk]
    rfl

/-- How often a component was counted so far. -/
def Memory.appliedCount (m : Memory) (c : Component) : Nat :=
  (m.metrics.applied.get? c.label).getD 0

/-- A label names one component. -/
theorem Component.ofLabel?_label (c : Component) : ofLabel? c.label = some c := by
  cases c <;> decide

theorem Component.label_injective {c d : Component} (h : c.label = d.label) : c = d := by
  have hsome : some c = some d := by rw [← c.ofLabel?_label, ← d.ofLabel?_label, h]
  exact Option.some.inj hsome

theorem appliedCount_countApplied (m : Memory) (c d : Component) :
    Memory.appliedCount { m with metrics := m.metrics.countApplied c.label } d
      = m.appliedCount d + if c = d then 1 else 0 := by
  refine (get?_countOne c.label d.label m.metrics.applied).trans ?_
  have hlabel : c.label = d.label ↔ c = d := ⟨Component.label_injective, congrArg Component.label⟩
  simp only [hlabel]
  rfl

/-! ## Writes and what they were read from -/

/-- The place that was read last, once this call was made. -/
def Made.lastRead (made : Made) (last : Option Place) : Option Place :=
  if made.call.isWrite then last else some made.call.place

/-- The writes that landed, each with the place that was read last before it. -/
def attributed (last : Option Place) : List Made → List (Option Place × Call)
  | [] => []
  | made :: rest =>
    (made.landed?.map fun call => (last, call)).toList ++ attributed (made.lastRead last) rest

theorem attributed_append (last : Option Place) (calls calls' : List Made) :
    attributed last (calls ++ calls') = attributed last calls ++
      attributed (calls.foldl (fun last made => made.lastRead last) last) calls' := by
  induction calls generalizing last with
  | nil => rfl
  | cons made calls ih => simp only [List.cons_append, attributed, ih, List.append_assoc, List.foldl_cons]

theorem map_snd_attributed (last : Option Place) (calls : List Made) :
    (attributed last calls).map (·.2) = landed calls := by
  induction calls generalizing last with
  | nil => rfl
  | cons made calls ih =>
    rw [attributed, List.map_append, ih]
    cases h : made.landed? <;> simp [landed, h]

/-- The creates and updates of an object that was read at a place. -/
def putsOf (p : Place) (writes : List (Option Place × Call)) : Nat :=
  writes.countP fun e => e.2.puts && decide (e.1 = some p)

/-- Where every write is at the place that was read last, its own place tells which
component it belongs to. -/
theorem putsOf_attributed {last : Option Place} {calls : List Made}
    (h : ∀ e ∈ attributed last calls, e.1 = some e.2.place) (p : Place) :
    putsOf p (attributed last calls)
      = (landed calls).countP fun call => call.puts && decide (call.place = p) := by
  rw [← map_snd_attributed last calls, List.countP_map, putsOf]
  refine List.countP_congr fun e he => ?_
  rw [h e he]
  simp

variable {α β : Type} {x : Setting} {c : Component} {kubelet : String} {s : Surroundings}
  {spec : Agent.Spec} {opts : ApplyOptions} {setOwner : Option OwnerSetter}
  {m : Memory} {w : Scene} {b : Bool} {f : α → Bool} {g : β → Bool}
  {out : (Except Error α × Memory) × Scene} {out' : (Except Error β × Memory) × Scene}
  {new more : List Made}

theorem attributed_eq_nil {last : Option Place} {calls : List Made} (h : landed calls = []) :
    attributed last calls = [] := by
  rw [← map_snd_attributed last calls] at h
  exact List.map_eq_nil_iff.1 h

/-- What is written after a reading belongs to what was read. -/
theorem attributed_onceMade {template : Object} {key : ObjectKey} {write : Option Call}
    (hwrite : ∀ call ∈ write, call.isWrite = true) (last : Option Place) :
    attributed last (onceMade template key write)
      = write.toList.map fun call => (some ⟨template.kind, key⟩, call) := by
  cases write with
  | none => rfl
  | some call =>
    have hcall : (⟨call, false⟩ : Made).landed? = some call := by
      simp [Made.landed?, hwrite call rfl]
    simp [onceMade, attributed, hcall]
    rfl

/-! ## Parts of a run -/

/-- The accounts of a part of a run that made these new calls. Before it something
was changed exactly if `b`, after it, with the result `a`, exactly if `f a`. -/
structure Accounted (spec : Agent.Spec) (setOwner : Option OwnerSetter) (b : Bool) (f : α → Bool)
    (m : Memory) (w : Scene) (out : (Except Error α × Memory) × Scene) (new : List Made) : Prop where
  calls : out.2.calls = w.calls ++ new
  changed : ∀ a, out.1.1 = .ok a → f a = (b || !(landed new).isEmpty)
  counted : ∀ last (c : Component),
    out.1.2.appliedCount c = m.appliedCount c + putsOf (c.place spec) (attributed last new)
  placed : ApplyOptions.Proper { setOwner } → Placed w.store →
    Placed out.2.store ∧ ∀ last, ∀ e ∈ attributed last new, e.1 = some e.2.place

/-- A run that lands nothing and counts nothing. -/
theorem Accounted.of_landed_nil {r : Except Error α} (hnew : landed new = [])
    (hf : ∀ a, r = .ok a → f a = b) :
    Accounted spec setOwner b f m w ((r, m), ⟨w.store, w.calls ++ new⟩) new := by
  refine ⟨rfl, ?_, ?_, ?_⟩
  · intro a ha
    rw [hf a ha, hnew]
    exact (Bool.or_false b).symm
  · intro last c
    rw [attributed_eq_nil hnew]
    rfl
  · intro _ ht
    refine ⟨ht, ?_⟩
    intro last e he
    rw [attributed_eq_nil hnew] at he
    cases he

/-- A run that makes no call, and remembers nothing but the kubelet version. -/
theorem Accounted.of_silent {r : Except Error α} {m' : Memory} (hm : m'.metrics = m.metrics)
    (hf : ∀ a, r = .ok a → f a = b) : Accounted spec setOwner b f m w ((r, m'), w) [] := by
  refine ⟨(List.append_nil _).symm, ?_, ?_, ?_⟩
  · intro a ha
    rw [hf a ha]
    exact (Bool.or_false b).symm
  · intro last c
    show m'.appliedCount c = m.appliedCount c + 0
    rw [Memory.appliedCount, hm]
    rfl
  · intro _ ht
    refine ⟨ht, ?_⟩
    intro last e he
    cases he

/-- A failure reports no change. -/
theorem Accounted.of_error {e : Error} {m' : Memory} {w' : Scene}
    (h : Accounted spec setOwner b f m w ((.error e, m'), w') new) :
    Accounted spec setOwner b g m w ((.error e, m'), w') new :=
  ⟨h.calls, fun _ ha => (by cases ha), h.counted, h.placed⟩

/-- Runs that follow each other keep their accounts together. -/
theorem Accounted.append (h : Accounted spec setOwner b f m w out new)
    (hnext : Accounted spec setOwner (b || !(landed new).isEmpty) g out.1.2 out.2 out' more) :
    Accounted spec setOwner b g m w out' (new ++ more) := by
  refine ⟨?_, ?_, ?_, ?_⟩
  · rw [hnext.calls, h.calls, List.append_assoc]
  · intro a ha
    have hany : (!(landed (new ++ more)).isEmpty)
        = (!(landed new).isEmpty || !(landed more).isEmpty) := by
      rw [landed_append]
      cases landed new <;> rfl
    rw [hnext.changed a ha, hany, Bool.or_assoc]
  · intro last c
    rw [hnext.counted _ c, h.counted last c, attributed_append, putsOf, putsOf, putsOf,
      List.countP_append, Nat.add_assoc]
  · intro hopts ht
    obtain ⟨hplaced, hwrites⟩ := h.placed hopts ht
    obtain ⟨hplaced', hwrites'⟩ := hnext.placed hopts hplaced
    refine ⟨hplaced', ?_⟩
    intro last e he
    rw [attributed_append] at he
    rcases List.mem_append.1 he with he | he
    · exact hwrites last e he
    · exact hwrites' _ e he

/-- What is done with a result is accounted for after it. -/
theorem accounted_bind {p : Pass α} {k : α → Pass β}
    (hp : ∃ new, Accounted spec setOwner b f m w (runIn x p m w) new)
    (hk : ∀ a m₁ w₁, ∃ new, Accounted spec setOwner (f a) g m₁ w₁ (runIn x (k a) m₁ w₁) new) :
    ∃ new, Accounted spec setOwner b g m w (runIn x (p >>= k) m w) new := by
  obtain ⟨new, h⟩ := hp
  rw [runIn_bind]
  rcases hrun : runIn x p m w with ⟨⟨e | a, m₁⟩, w₁⟩ <;> rw [hrun] at h
  · exact ⟨new, h.of_error⟩
  · obtain ⟨more, hnext⟩ := hk a m₁ w₁
    rw [h.changed a rfl] at hnext
    exact ⟨new ++ more, h.append hnext⟩

/-! ## Components -/

/-- A component that was put is counted, and no other one. -/
theorem putsOf_singleton {call : Call} (hputs : call.puts = true) (c d : Component) :
    putsOf (d.place spec) [(some (c.place spec), call)] = if c = d then 1 else 0 := by
  have hplace : some (c.place spec) = some (d.place spec) ↔ c = d := by
    constructor
    · intro h
      exact Component.eq_of_place (Option.some.inj h)
    · rintro rfl
      rfl
  simp only [putsOf, List.countP_singleton, hputs, Bool.true_and, hplace, decide_eq_true_eq]

theorem accounted_applied (hopts : opts.setOwner = setOwner) :
    ∃ new, Accounted spec setOwner b (fun a => b || a.changed) m w
      (runIn x (applied c s spec opts) m w) new := by
  subst hopts
  rw [runIn_applied]
  rcases htask : Task.runIn x (apply c s spec opts) w with ⟨r, w'⟩
  have happly := applying_of_runIn htask
  rw [runIn_apply] at htask
  rcases Setting.once_cases htask with ⟨e, new, rfl, rfl, hnew⟩ | ⟨found, a, write, hread, ha, rfl, rfl⟩
  · exact ⟨new, .of_landed_nil hnew fun _ h => (by cases h)⟩
  refine ⟨onceMade (c.emptyObject s.kubelet) (c.key spec) write, ?_⟩
  rcases response_cases ha with ⟨hsame, rfl⟩ | ⟨hchanged, hwanted, hwrite⟩
  · dsimp only
    rw [hsame]
    refine .of_landed_nil rfl ?_
    intro a' ha'
    cases ha'
    rw [hsame, Bool.or_false]
  · obtain ⟨call, rfl, hcall, hputs, hplaceOf⟩ : ∃ call, write = some call ∧ call.isWrite = true ∧
        call.puts = true ∧ call.place = placeOf a.object := by
      rcases hwrite with rfl | rfl <;> exact ⟨_, rfl, rfl, rfl, rfl⟩
    have hwrites : ∀ call' ∈ some call, call'.isWrite = true := by
      intro call' hmem
      cases hmem
      exact hcall
    have hattributed (last : Option Place) :
        attributed last (onceMade (c.emptyObject s.kubelet) (c.key spec) (some call))
          = [(some (c.place spec), call)] := by
      rw [attributed_onceMade hwrites, place_emptyObject]
      rfl
    refine ⟨rfl, ?_, ?_, ?_⟩
    · intro a' ha'
      cases ha'
      rw [hchanged, landed_onceMade hwrites]
      rfl
    · intro last d
      rw [hattributed, putsOf_singleton hputs]
      dsimp only
      rw [if_pos hchanged]
      exact appliedCount_countApplied m c d
    · intro hproper ht
      refine ⟨happly.placed hproper ht, ?_⟩
      intro last e he
      rw [hattributed] at he
      cases List.mem_singleton.1 he
      show some (c.place spec) = some call.place
      have hopts : opts.Proper := hproper
      rw [hplaceOf, ht.place_of_wanted hopts hread hwanted]

theorem accounted_deleteIfExists :
    ∃ new, Accounted spec setOwner b (fun deleted => b || deleted) m w
      (runIn x (ofTask (deleteIfExists c kubelet spec)) m w) new := by
  rw [runIn_ofTask]
  rcases htask : Task.runIn x (deleteIfExists c kubelet spec) w with ⟨r, w'⟩
  have hdelete := deleting_of_runIn htask
  rw [runIn_deleteIfExists] at htask
  rcases Setting.once_cases htask with ⟨e, new, rfl, rfl, hnew⟩ | ⟨found, a, write, hread, ha, rfl, rfl⟩
  · exact ⟨new, .of_landed_nil hnew fun _ h => (by cases h)⟩
  refine ⟨onceMade (c.emptyObject kubelet) (c.key spec) write, ?_⟩
  cases found with
  | none =>
    cases ha
    refine .of_landed_nil rfl ?_
    intro a' ha'
    cases ha'
    exact Bool.or_false b
  | some o =>
    cases ha
    have hattributed (last : Option Place) :
        attributed last (onceMade (c.emptyObject kubelet) (c.key spec) (some (.delete o)))
          = [(some (c.place spec), .delete o)] := by
      rw [← place_emptyObject c kubelet]
      rfl
    refine ⟨rfl, ?_, ?_, ?_⟩
    · intro a' ha'
      cases ha'
      rfl
    · intro last d
      rw [hattributed]
      rfl
    · intro _ ht
      refine ⟨hdelete.placed ht, ?_⟩
      intro last e he
      rw [hattributed] at he
      cases List.mem_singleton.1 he
      exact congrArg some (ht.place_of_stored hread).symm

/-! ## Passes -/

theorem accounted_kubeletVersion :
    ∃ new, Accounted spec setOwner b (fun _ => b) m w (runIn x kubeletVersion m w) new := by
  refine ⟨[], ?_⟩
  cases hm : m.kubelet with
  | some version =>
    rw [runIn_kubeletVersion_of_known hm]
    exact .of_silent rfl fun _ _ => rfl
  | none =>
    rw [runIn_kubeletVersion_of_unknown hm]
    cases x.kubelet <;> exact .of_silent rfl fun _ _ => rfl

theorem Pass.Plain.accounted {p : Pass α} (h : Plain spec setOwner b p f) (m : Memory) (w : Scene) :
    ∃ new, Accounted spec setOwner b f m w (runIn x p m w) new := by
  induction h generalizing m w with
  | pure h =>
    refine ⟨[], .of_silent rfl ?_⟩
    intro a ha
    cases ha
    exact h
  | throw e f => exact ⟨[], .of_silent rfl fun _ ha => (by cases ha)⟩
  | bind hp hk ihp ihk => exact accounted_bind (ihp m w) ihk
  | ofExcept r =>
    rw [runIn_ofTask]
    exact ⟨[], .of_silent rfl fun _ _ => rfl⟩
  | kubeletVersion => exact accounted_kubeletVersion
  | nodeCount =>
    rw [runIn_ofTask]
    exact ⟨[], .of_silent rfl fun _ _ => rfl⟩
  | applied c s hopts => exact accounted_applied hopts
  | deleteIfExists c kubelet => exact accounted_deleteIfExists

/-- Bringing the enforcer to the spec is accounted for, whichever of its steps fails. -/
theorem accounted_applyEnforcer (hopts : opts.setOwner = setOwner) :
    ∃ new, Accounted spec setOwner b (fun changed => b || changed) m w
      (runIn x (applyEnforcer s spec opts) m w) new := by
  have hplain : Plain spec setOwner b (enforcerSteps s spec opts)
      fun objects => b || objects.changed := plain_enforcerSteps hopts
  obtain ⟨new, hsteps⟩ := hplain.accounted (x := x) m w
  rw [runIn_applyEnforcer]
  rcases hrun : runIn x (enforcerSteps s spec opts) m w with ⟨⟨e | objects, m₁⟩, w₁⟩ <;>
    rw [hrun] at hsteps <;> dsimp only
  · have hpull : Plain spec setOwner (b || !(landed new).isEmpty)
        (deleteAll s.kubelet spec webhooks >>= fun _ => throw e) fun changed => b || changed :=
      plain_pullWebhooks e _
    obtain ⟨more, hnext⟩ := hpull.accounted (x := x) m₁ w₁
    exact ⟨new ++ more, hsteps.append hnext⟩
  · have hwebhooks : Plain spec setOwner (b || objects.changed)
        (enforcerWebhooks s spec opts objects) fun changed => b || changed :=
      plain_enforcerWebhooks hopts objects
    obtain ⟨more, hnext⟩ := hwebhooks.accounted (x := x) m₁ w₁
    rw [hsteps.changed objects rfl] at hnext
    exact ⟨new ++ more, hsteps.append hnext⟩

theorem accounted_applyDesiredState (x : Setting) (spec : Agent.Spec)
    (registry : RegistryCredentials) (setOwner : Option OwnerSetter) (m : Memory) (w : Scene) :
    ∃ new, Accounted spec setOwner false id m w
      (runIn x (applyDesiredState spec registry setOwner) m w) new := by
  rw [applyDesiredState_eq]
  refine accounted_bind accounted_kubeletVersion fun kubelet m₁ w₁ => ?_
  have hcore : Plain spec setOwner false
      (applyAll { kubelet, registry := some registry } spec { setOwner } coreComponents)
      fun changed => false || changed := plain_applyAll rfl
  refine accounted_bind (hcore.accounted m₁ w₁) fun core m₂ w₂ => ?_
  rw [Bool.false_or]
  have henforcer : ∃ new, Accounted spec setOwner core (fun changed => core || changed) m₂ w₂
      (runIn x (applyEnforcer { kubelet, registry := some registry } spec { setOwner }) m₂ w₂) new :=
    accounted_applyEnforcer rfl
  refine accounted_bind henforcer fun enforcer m₃ w₃ => ?_
  have hlater : Plain spec setOwner (core || enforcer)
      (applyLater { kubelet, registry := some registry } spec { setOwner } (core || enforcer)) id :=
    plain_applyLater rfl
  exact hlater.accounted m₃ w₃

/-! ## Runs of passes -/

/-- A pass with everything it is given, but what is remembered of earlier ones. -/
structure Round where
  setting : Setting
  spec : Agent.Spec
  registry : RegistryCredentials
  setOwner : Option OwnerSetter
  store : Table

def Round.run (r : Round) (m : Memory) : (Except Error Bool × Memory) × Scene :=
  runIn r.setting (applyDesiredState r.spec r.registry r.setOwner) m ⟨r.store, []⟩

/-- What is remembered after passes. -/
def memoryAfter (m : Memory) (rounds : List Round) : Memory :=
  rounds.foldl (fun m r => (r.run m).1.2) m

/-- The creates and updates of a component's object that landed in a pass. -/
def Round.puts (r : Round) (m : Memory) (c : Component) : Nat :=
  putsOf (c.place r.spec) (attributed none (r.run m).2.calls)

/-- The creates and updates of a component's object that landed in passes. -/
def putsOver (c : Component) : Memory → List Round → Nat
  | _, [] => 0
  | m, r :: rounds => r.puts m c + putsOver c (r.run m).1.2 rounds

theorem Round.accounted (r : Round) (m : Memory) :
    Accounted r.spec r.setOwner false id m ⟨r.store, []⟩ (r.run m) (r.run m).2.calls := by
  obtain ⟨new, h⟩ :=
    accounted_applyDesiredState r.setting r.spec r.registry r.setOwner m ⟨r.store, []⟩
  rw [show (r.run m).2.calls = new from h.calls]
  exact h

theorem appliedCount_memoryAfter (m : Memory) (rounds : List Round) (c : Component) :
    (memoryAfter m rounds).appliedCount c = m.appliedCount c + putsOver c m rounds := by
  induction rounds generalizing m with
  | nil => rfl
  | cons r rounds ih =>
    rw [putsOver, ← Nat.add_assoc, ← show (r.run m).1.2.appliedCount c
      = m.appliedCount c + r.puts m c from (r.accounted m).counted none c]
    exact ih (r.run m).1.2

/-- **The accounts of passes are exact.** After any passes, whatever they were given
and whichever of their calls failed:

* the last one, if it succeeded, reports a change exactly if a write landed in it;
* every component was counted as often as its object was created or updated;
* where every object is stored under its own key and the owner setter writes owners
  only, these are the creates and updates at the component's place. -/
theorem accounts_of_passes (m : Memory) (earlier : List Round) (last : Round) :
    (∀ changed, (last.run (memoryAfter m earlier)).1.1 = .ok changed →
      (changed = true ↔ landed (last.run (memoryAfter m earlier)).2.calls ≠ [])) ∧
    (∀ c : Component, (memoryAfter m (earlier ++ [last])).appliedCount c
      = m.appliedCount c + putsOver c m (earlier ++ [last])) ∧
    (ApplyOptions.Proper { setOwner := last.setOwner } → Placed last.store → ∀ c : Component,
      last.puts (memoryAfter m earlier) c
        = (landed (last.run (memoryAfter m earlier)).2.calls).countP
          fun call => call.puts && decide (call.place = c.place last.spec)) := by
  have haccounted := last.accounted (memoryAfter m earlier)
  refine ⟨?_, ?_, ?_⟩
  · intro changed hchanged
    have hreport : changed = !(landed (last.run (memoryAfter m earlier)).2.calls).isEmpty :=
      haccounted.changed changed hchanged
    rw [hreport]
    cases landed (last.run (memoryAfter m earlier)).2.calls <;> simp
  · intro c
    exact appliedCount_memoryAfter m _ c
  · intro hopts ht c
    exact putsOf_attributed ((haccounted.placed hopts ht).2 none) _

end AgentOperator.Dataplane
