import AgentOperator.Proofs.Prefixes
import AgentOperator.Proofs.Settling

/-!
AgentOperator.Proofs.Resumption — taking up work where it was left.

Against a healthy store a pass lands some writes, one after the other. When only
the first ones of them have been made, whoever made them, the same pass makes just
the others: `Pass.Resumes` says so of two passes, the one that tells which writes
there are and the one that takes them up. Both are the same code, but answered
differently on the way, as in `Pass.Settles`, and they are followed through it one
construct at a time.

`Pass.Continues` covers what a pass does after one of its parts, be that part's
failure passed on or not. So the enforcer, which does something about its webhooks
even after a failure, is composed like everything else.
-/

namespace AgentOperator.Dataplane

open Kube (Object ObjectKey)
open Store (Call Place Table placeOf)

namespace Pass

variable {α β γ : Type} {x : Setting} {kubelet : String} {spec : Agent.Spec}
  {cs ds : List Component} {t u : Table} {p q : Pass α} {R : α → α → Prop} {S : β → β → Prop}
  {r r' : Except Error α} {writes writes' : List Call}

/-! ## Acting -/

/-- On every store that holds the same of these components, the pass has this result
and lands these writes, as long as no call fails. -/
def Acts (x : Setting) (kubelet : String) (spec : Agent.Spec) (cs : List Component) (t : Table)
    (p : Pass α) (r : Except Error α) (writes : List Call) : Prop :=
  ∀ m w, m.kubelet = some kubelet → SameOf spec cs t w.store →
    ∃ m' new, runIn x.calm p m w = ((r, m'), ⟨w.store.replay writes, w.calls ++ new⟩) ∧
      m'.kubelet = some kubelet ∧ landed new = writes

/-- There is one way to act. -/
theorem Acts.unique (h : Acts x kubelet spec cs t p r writes)
    (h' : Acts x kubelet spec cs t p r' writes') : r = r' ∧ writes = writes' := by
  let m : Memory := { kubelet := some kubelet }
  obtain ⟨m₁, new, hrun, -, rfl⟩ := h m ⟨t, []⟩ rfl fun _ _ => rfl
  obtain ⟨m₂, new', hrun', -, rfl⟩ := h' m ⟨t, []⟩ rfl fun _ _ => rfl
  have hsame := hrun.symm.trans hrun'
  simp only [Prod.mk.injEq, Scene.mk.injEq, List.nil_append] at hsame
  obtain ⟨⟨hr, -⟩, -, hnew⟩ := hsame
  exact ⟨hr, congrArg landed hnew⟩

theorem Acts.of_same (h : Acts x kubelet spec cs t p r writes) (hsame : SameOf spec cs t u) :
    Acts x kubelet spec cs u p r writes := by
  intro m w hm hw
  refine h m w hm fun c hc => ?_
  rw [hw c hc, hsame c hc]

/-- Work that makes no call. -/
theorem acts_of_silent (h : ∀ m w, m.kubelet = some kubelet →
    ∃ m', runIn x.calm p m w = ((r, m'), w) ∧ m'.kubelet = some kubelet) :
    Acts x kubelet spec cs t p r [] := by
  intro m w hm _
  obtain ⟨m', hrun, hm'⟩ := h m w hm
  refine ⟨m', [], ?_, hm', rfl⟩
  rw [hrun, List.append_nil]
  rfl

/-- Stores that hold the same of components do so after the same writes. -/
theorem SameOf.replay (h : SameOf spec cs t u) (writes : List Call) :
    SameOf spec cs (t.replay writes) (u.replay writes) :=
  fun c hc => Table.get?_replay_congr (h c hc)

/-! ## Parts with what follows them -/

/-- The pass begins with this part, and `k` is what it does with its result. -/
def Continues (x : Setting) (whole : Pass β) (part : Pass α) (k : Except Error α → Pass β) : Prop :=
  ∀ m w, runIn x whole m w = runIn x (k (runIn x part m w).1.1) (runIn x part m w).1.2
    (runIn x part m w).2

/-- A failure is passed on. -/
def orThrow (f : α → Pass β) : Except Error α → Pass β
  | .ok a => f a
  | .error e => throw e

theorem continues_bind (p : Pass α) (f : α → Pass β) : Continues x (p >>= f) p (orThrow f) := by
  intro m w
  rw [runIn_bind]
  rcases runIn x p m w with ⟨⟨e | a, m₁⟩, w₁⟩ <;> rfl

/-- What is done after the steps of the enforcer. -/
def afterSteps (s : Surroundings) (spec : Agent.Spec) (opts : ApplyOptions) :
    Except Error EnforcerObjects → Pass Bool
  | .ok objects => enforcerWebhooks s spec opts objects
  | .error e => do
    let _ ← deleteAll s.kubelet spec webhooks
    throw e

theorem continues_applyEnforcer (s : Surroundings) (spec : Agent.Spec) (opts : ApplyOptions) :
    Continues x (applyEnforcer s spec opts) (enforcerSteps s spec opts) (afterSteps s spec opts) := by
  intro m w
  rw [runIn_applyEnforcer]
  rcases runIn x (enforcerSteps s spec opts) m w with ⟨⟨e | objects, m₁⟩, w₁⟩ <;> rfl

theorem Acts.continue {whole : Pass β} {k : Except Error α → Pass β} {b : Except Error β}
    (hwhole : Continues x.calm whole p k) (hp : Acts x kubelet spec cs t p r writes)
    (hk : Acts x kubelet spec ds (t.replay writes) (k r) b writes') :
    Acts x kubelet spec (cs ++ ds) t whole b (writes ++ writes') := by
  intro m w hm hsame
  obtain ⟨m₁, new, hrun, hm₁, hnew⟩ := hp m w hm fun c hc => hsame c (List.mem_append_left ds hc)
  have hsame₁ : SameOf spec ds (t.replay writes) (w.store.replay writes) :=
    SameOf.replay (fun c hc => hsame c (List.mem_append_right cs hc)) writes
  obtain ⟨m₂, new', hrun', hm₂, hnew'⟩ := hk m₁ ⟨w.store.replay writes, w.calls ++ new⟩ hm₁ hsame₁
  refine ⟨m₂, new ++ new', ?_, hm₂, ?_⟩
  · rw [hwhole, hrun, Table.replay_append, ← List.append_assoc]
    exact hrun'
  · rw [landed_append, hnew, hnew']

/-! ## Resuming -/

/-- Both failed in the same way, or both succeeded with results that are alike. -/
def Alike (R : α → α → Prop) : Except Error α → Except Error α → Prop
  | .ok a, .ok b => R a b
  | .error e, .error e' => e = e'
  | _, _ => False

/-- From this store, `p` lands these writes, and `q` takes up the rest of them
wherever it was left off. -/
structure Resumed (x : Setting) (kubelet : String) (spec : Agent.Spec) (cs : List Component)
    (p q : Pass α) (R : α → α → Prop) (t : Table) (r : Except Error α) (writes : List Call) :
    Prop where
  acts : Acts x kubelet spec cs t p r writes
  orderly : Orderly kubelet (t.replay writes)
  own : ∀ call ∈ writes, ∃ c ∈ cs, call.place = c.place spec
  again : ∀ done rest, writes = done ++ rest →
    ∃ r', Alike R r r' ∧ Acts x kubelet spec cs (t.replay done) q r' rest

/-- Wherever `p` is left off, `q` does what remains to be done. -/
def Resumes (x : Setting) (kubelet : String) (spec : Agent.Spec) (cs : List Component)
    (p q : Pass α) (R : α → α → Prop) : Prop :=
  ∀ t, Orderly kubelet t → ∃ r writes, Resumed x kubelet spec cs p q R t r writes

/-- Writes about some components are nothing to others. -/
theorem sameOf_of_own (hown : ∀ call ∈ writes, ∃ c ∈ ds, call.place = c.place spec)
    (hdisjoint : ∀ c ∈ cs, c ∉ ds) : SameOf spec cs t (t.replay writes) := by
  intro c hc
  refine Table.get?_replay_of_ne fun call hcall hplace => ?_
  obtain ⟨d, hd, hown⟩ := hown call hcall
  exact hdisjoint c hc (Component.eq_of_place (hplace.symm.trans hown) ▸ hd)

/-- What follows a part is taken up where it was left off, too. -/
theorem Resumes.continue {whole whole' : Pass β} {k k' : Except Error α → Pass β}
    (hwhole : Continues x.calm whole p k) (hwhole' : Continues x.calm whole' q k')
    (hp : Resumes x kubelet spec cs p q R)
    (hk : ∀ r r', Alike R r r' → Resumes x kubelet spec ds (k r) (k' r') S)
    (hdisjoint : ∀ c ∈ cs, c ∉ ds) : Resumes x kubelet spec (cs ++ ds) whole whole' S := by
  intro t ht
  obtain ⟨r, writes, hfirst⟩ := hp t ht
  obtain ⟨r₀, halike₀, -⟩ := hfirst.again writes [] (List.append_nil _).symm
  obtain ⟨b, more, hnext⟩ := hk r r₀ halike₀ (t.replay writes) hfirst.orderly
  -- Whatever the second one is answered, what follows lands the same.
  have hrest {r'} (halike : Alike R r r') :
      Resumed x kubelet spec ds (k r) (k' r') S (t.replay writes) b more := by
    obtain ⟨b', more', hnext'⟩ := hk r r' halike (t.replay writes) hfirst.orderly
    obtain ⟨rfl, rfl⟩ := hnext'.acts.unique hnext.acts
    exact hnext'
  refine ⟨b, writes ++ more, hfirst.acts.continue hwhole hnext.acts, ?_, ?_, ?_⟩
  · rw [Table.replay_append]
    exact hnext.orderly
  · intro call hcall
    rcases List.mem_append.1 hcall with hcall | hcall
    · obtain ⟨c, hc, hplace⟩ := hfirst.own call hcall
      exact ⟨c, List.mem_append_left ds hc, hplace⟩
    · obtain ⟨c, hc, hplace⟩ := hnext.own call hcall
      exact ⟨c, List.mem_append_right cs hc, hplace⟩
  · intro done rest hsplit
    rcases List.append_eq_append_iff.1 hsplit with ⟨late, rfl, hmore⟩ | ⟨early, hwrites, rfl⟩
    -- It was left off after the part, which is found as it was left.
    · obtain ⟨r', halike, hagain⟩ := hfirst.again writes [] (List.append_nil _).symm
      obtain ⟨b', halike', hagain'⟩ := (hrest halike).again late rest hmore
      have hlate : ∀ call ∈ late, ∃ c ∈ ds, call.place = c.place spec := by
        intro call hcall
        exact hnext.own call (hmore ▸ List.mem_append_left rest hcall)
      rw [Table.replay_append]
      refine ⟨b', halike', ?_⟩
      exact Acts.continue hwhole' (hagain.of_same (sameOf_of_own hlate hdisjoint)) hagain'
    -- It was left off within the part.
    · obtain ⟨r', halike, hagain⟩ := hfirst.again done early hwrites
      obtain ⟨b', halike', hagain'⟩ := (hrest halike).again [] more rfl
      refine ⟨b', halike', hagain.continue hwhole' ?_⟩
      rw [← Table.replay_append, ← hwrites]
      exact hagain'

/-- Work that makes no call is done again, with a result that is alike. -/
theorem resumes_of_silent (halike : Alike R r r')
    (hp : ∀ m w, m.kubelet = some kubelet →
      ∃ m', runIn x.calm p m w = ((r, m'), w) ∧ m'.kubelet = some kubelet)
    (hq : ∀ m w, m.kubelet = some kubelet →
      ∃ m', runIn x.calm q m w = ((r', m'), w) ∧ m'.kubelet = some kubelet) :
    Resumes x kubelet spec cs p q R := by
  intro t ht
  refine ⟨r, [], acts_of_silent hp, ht, fun _ hcall => (by cases hcall), ?_⟩
  intro done rest hsplit
  obtain ⟨rfl, rfl⟩ := List.append_eq_nil_iff.1 hsplit.symm
  exact ⟨r', halike, acts_of_silent hq⟩

theorem Resumes.pure {a b : α} (h : R a b) :
    Resumes x kubelet spec cs (Pure.pure a) (Pure.pure b) R :=
  resumes_of_silent (show Alike R (.ok a) (.ok b) from h) (fun m _ hm => ⟨m, rfl, hm⟩)
    fun m _ hm => ⟨m, rfl, hm⟩

theorem Resumes.throw (e : Error) :
    Resumes x kubelet spec cs (MonadExcept.throw e) (MonadExcept.throw e) R :=
  resumes_of_silent (show Alike R (.error e) (.error e) from rfl) (fun m _ hm => ⟨m, rfl, hm⟩)
    fun m _ hm => ⟨m, rfl, hm⟩

/-- What is computed without requests is the same the second time. -/
theorem resumes_ofExcept (r : Except Error α) :
    Resumes x kubelet spec cs (ofTask (Task.ofExcept r)) (ofTask (Task.ofExcept r))
      fun a b => b = a := by
  have halike : Alike (fun a b => b = a) r r := by
    cases r <;> rfl
  exact resumes_of_silent halike (fun m _ hm => ⟨m, rfl, hm⟩) fun m _ hm => ⟨m, rfl, hm⟩

theorem resumes_nodeCount :
    Resumes x kubelet spec cs (ofTask Task.nodeCount) (ofTask Task.nodeCount) fun a b => b = a := by
  have halike : Alike (fun a b => b = a) x.nodes x.nodes := by
    cases x.nodes <;> rfl
  exact resumes_of_silent halike (fun m _ hm => ⟨m, rfl, hm⟩) fun m _ hm => ⟨m, rfl, hm⟩

/-- Passes over different components are taken up one after the other. -/
theorem Resumes.bind {f g : α → Pass β} (hp : Resumes x kubelet spec cs p q R)
    (hf : ∀ a b, R a b → Resumes x kubelet spec ds (f a) (g b) S)
    (hdisjoint : ∀ c ∈ cs, c ∉ ds) : Resumes x kubelet spec (cs ++ ds) (p >>= f) (q >>= g) S := by
  refine hp.continue (continues_bind p f) (continues_bind q g) ?_ hdisjoint
  intro r r' halike
  cases r <;> cases r'
  · cases halike
    exact .throw _
  · exact halike.elim
  · exact halike.elim
  · exact hf _ _ halike

/-- A step that touches no component can stand before any other. -/
theorem Resumes.nil_bind {f g : α → Pass β} (hp : Resumes x kubelet spec [] p q R)
    (hf : ∀ a b, R a b → Resumes x kubelet spec cs (f a) (g b) S) :
    Resumes x kubelet spec cs (p >>= f) (q >>= g) S :=
  hp.bind hf fun _ hc => (by cases hc)

/-- What is made of the result is made without requests. -/
theorem Resumes.bind_pure {f g : α → β} (hp : Resumes x kubelet spec cs p q R)
    (hf : ∀ a b, R a b → S (f a) (g b)) :
    Resumes x kubelet spec cs (p >>= fun a => Pure.pure (f a)) (q >>= fun b => Pure.pure (g b)) S := by
  have hbind : Resumes x kubelet spec (cs ++ []) (p >>= fun a => Pure.pure (f a))
      (q >>= fun b => Pure.pure (g b)) S :=
    hp.bind (fun a b hab => .pure (hf a b hab)) fun c _ => List.not_mem_nil
  rwa [List.append_nil] at hbind

/-! ## Components -/

/-- A step that lands one write at most is taken up if it rests once that write has
been made. -/
theorem Resumed.of_once {write : Option Call} (hacts : Acts x kubelet spec cs t p r write.toList)
    (horderly : Orderly kubelet (t.replay write.toList))
    (hown : ∀ call ∈ write, ∃ c ∈ cs, call.place = c.place spec) (hrefl : Alike R r r)
    (hagain : ∀ call ∈ write, ∃ r', Alike R r r' ∧ Acts x kubelet spec cs (t.replay [call]) p r' []) :
    Resumed x kubelet spec cs p p R t r write.toList := by
  refine ⟨hacts, horderly, fun call hcall => hown call (Option.mem_toList.1 hcall), ?_⟩
  intro done rest hsplit
  cases done with
  | nil =>
    rw [List.nil_append] at hsplit
    subst hsplit
    exact ⟨r, hrefl, hacts⟩
  | cons call done =>
    cases write with
    | none => cases hsplit
    | some call' =>
      obtain ⟨rfl, hnil⟩ := List.cons.inj hsplit
      obtain ⟨rfl, rfl⟩ := List.append_eq_nil_iff.1 hnil.symm
      exact hagain call' rfl

variable {c : Component} {s : Surroundings} {opts : ApplyOptions}

/-- The write that is made of a response, if any. -/
def writeOf : Except Error (α × Option Call) → Option Call
  | .ok (_, write) => write
  | .error _ => none

/-- The stored value decides on what a step does that reads once and then writes. -/
theorem acts_of_once {template : Object} {key : ObjectKey}
    {respond : Option Object → Except Error (α × Option Call)}
    (hplace : (⟨template.kind, key⟩ : Place) = c.place spec) (hwrites : OnlyWrites respond)
    (hp : ∀ m w, ∃ m', m'.kubelet = m.kubelet ∧ runIn x.calm p m w
      = (((x.calm.once template key respond w).1, m'), (x.calm.once template key respond w).2)) :
    Acts x kubelet spec [c] t p (Prod.fst <$> (t.read template key >>= respond))
      (writeOf (t.read template key >>= respond)).toList := by
  intro m w hm hsame
  have hread : w.store.read template key = t.read template key := by
    refine Table.read_congr ?_
    rw [hplace]
    exact hsame c (List.mem_singleton_self c)
  obtain ⟨m', hm', hrun⟩ := hp m w
  rw [Setting.once_calm hwrites, hread] at hrun
  rcases hrespond : t.read template key >>= respond with e | ⟨a, write⟩ <;> rw [hrespond] at hrun
  · exact ⟨m', onceMade template key none, hrun, hm'.trans hm, rfl⟩
  · refine ⟨m', onceMade template key write, hrun, hm'.trans hm, landed_onceMade ?_⟩
    rintro call rfl
    obtain ⟨found, -, hfound⟩ := Except.bind_eq_ok.1 hrespond
    exact hwrites found a call hfound

theorem acts_applied {response : Except Error (Applied × Option Call)}
    (hkubelet : s.kubelet = kubelet)
    (h : c.stored kubelet spec t >>= x.response c s spec opts = response) :
    Acts x kubelet spec [c] t (applied c s spec opts) (Prod.fst <$> response)
      (writeOf response).toList := by
  subst hkubelet
  rw [← h]
  refine acts_of_once (place_emptyObject c s.kubelet spec) onlyWrites_response fun m w => ?_
  rw [runIn_applied, runIn_apply, Setting.response_calm]
  rcases x.calm.once (c.emptyObject s.kubelet) (c.key spec) (x.response c s spec opts) w
    with ⟨_ | a, w₁⟩
  · exact ⟨m, rfl, rfl⟩
  · refine ⟨_, ?_, rfl⟩
    split <;> rfl

theorem acts_deleteIfExists {response : Except Error (Bool × Option Call)}
    (h : c.stored kubelet spec t >>= deletion = response) :
    Acts x kubelet spec [c] t (ofTask (deleteIfExists c kubelet spec)) (Prod.fst <$> response)
      (writeOf response).toList := by
  rw [← h]
  refine acts_of_once (place_emptyObject c kubelet spec) onlyWrites_deletion fun m w => ?_
  refine ⟨m, rfl, ?_⟩
  rw [runIn_ofTask, runIn_deleteIfExists]

/-- A component that is as it was answered is found so, and not written. -/
theorem response_of_again {a : Applied}
    (h : opts.createOnly = true ∨ x.wanted c s spec opts (some a.object) = .ok a.object) :
    x.response c s spec opts (some a.object) = .ok (⟨false, a.object⟩, none) := by
  unfold Setting.response
  dsimp only
  by_cases honly : opts.createOnly = true
  · rw [if_pos honly]
  · rw [if_neg honly, h.resolve_left honly]
    show Except.ok (replacement a.object a.object) = _
    rw [replacement, if_pos rfl]

/-- A step that failed without a write fails again. -/
theorem Resumed.of_failed {e : Error} (hacts : Acts x kubelet spec cs t p (.error e) [])
    (ht : Orderly kubelet t) : Resumed x kubelet spec cs p p R t (.error e) [] := by
  have hacts' : Acts x kubelet spec cs t p (.error e) (none : Option Call).toList := hacts
  exact .of_once hacts' ht (fun _ hcall => (by cases hcall)) rfl fun _ hcall => (by cases hcall)

/-- A component that was brought to the spec is found as it was answered. -/
theorem resumes_applied (hkubelet : s.kubelet = kubelet) (hopts : opts.Proper) :
    Resumes x kubelet spec [c] (applied c s spec opts) (applied c s spec opts)
      fun a b => b.object = a.object := by
  intro t ht
  subst hkubelet
  rcases hresponse : c.stored s.kubelet spec t >>= x.response c s spec opts with e | ⟨a, write⟩
  · exact ⟨_, _, .of_failed (acts_applied rfl hresponse) ht⟩
  have hacts : Acts x s.kubelet spec [c] t (applied c s spec opts) (.ok a) write.toList :=
    acts_applied rfl hresponse
  obtain ⟨found, hread, hresponse⟩ := Except.bind_eq_ok.1 hresponse
  obtain ⟨m', new, hrun, -, -⟩ := hacts { kubelet := some s.kubelet } ⟨t, []⟩ rfl fun _ _ => rfl
  have happly : Applying x.calm c s spec opts t (.ok a) (t.replay write.toList) :=
    (applying_of_applied hrun).2
  have hagain : x.response c s spec opts (some a.object) = .ok (⟨false, a.object⟩, none) :=
    response_of_again (happly.again hopts ht)
  refine ⟨.ok a, write.toList, .of_once hacts (happly.orderly hopts ht) ?_ rfl ?_⟩
  · rintro call rfl
    refine ⟨c, List.mem_singleton_self c, ?_⟩
    rcases response_cases hresponse with ⟨-, hnone⟩ | ⟨-, hwanted, hwrite⟩
    · cases hnone
    · have hplace : placeOf a.object = c.place spec :=
        ht.placed.place_of_wanted hopts hread hwanted
      rcases hwrite with hwrite | hwrite <;> cases hwrite <;> exact hplace
  · rintro call rfl
    have hstored : c.stored s.kubelet spec (t.replay [call]) = .ok (some a.object) :=
      happly.stored_after hopts ht.placed
    have hrests : c.stored s.kubelet spec (t.replay [call]) >>= x.response c s spec opts
        = .ok (⟨false, a.object⟩, none) := by
      rw [hstored]
      exact hagain
    exact ⟨.ok ⟨false, a.object⟩, rfl, acts_applied rfl hrests⟩

/-- A component that was deleted is looked for in vain. -/
theorem resumes_deleteIfExists :
    Resumes x kubelet spec [c] (ofTask (deleteIfExists c kubelet spec))
      (ofTask (deleteIfExists c kubelet spec)) fun _ _ => True := by
  intro t ht
  rcases hresponse : c.stored kubelet spec t >>= deletion with e | ⟨deleted, write⟩
  · exact ⟨_, _, .of_failed (acts_deleteIfExists hresponse) ht⟩
  have hacts : Acts x kubelet spec [c] t (ofTask (deleteIfExists c kubelet spec)) (.ok deleted)
      write.toList := acts_deleteIfExists hresponse
  obtain ⟨found, hread, hresponse⟩ := Except.bind_eq_ok.1 hresponse
  obtain ⟨m', new, hrun, -, -⟩ := hacts { kubelet := some kubelet } ⟨t, []⟩ rfl fun _ _ => rfl
  have hdelete : Deleting c kubelet spec t (.ok deleted) (t.replay write.toList) :=
    deleting_of_runIn (runIn_ofTask_eq.1 hrun).2
  refine ⟨.ok deleted, write.toList, .of_once hacts (hdelete.orderly ht) ?_ trivial ?_⟩
  · rintro call rfl
    refine ⟨c, List.mem_singleton_self c, ?_⟩
    cases found <;> cases hresponse
    exact ht.placed.place_of_stored hread
  · rintro call rfl
    have habsent : c.stored kubelet spec (t.replay [call]) = .ok none := by
      refine Table.read_of_none ?_
      rw [emptyObject_kind]
      exact hdelete.absent_after ht.placed
    have hrests : c.stored kubelet spec (t.replay [call]) >>= deletion = .ok (false, none) := by
      rw [habsent]
      rfl
    exact ⟨.ok false, trivial, acts_deleteIfExists hrests⟩

/-! ## Passes -/

theorem resumes_applyAll (hkubelet : s.kubelet = kubelet) (hopts : opts.Proper)
    (hnodup : cs.Nodup) :
    Resumes x kubelet spec cs (applyAll s spec opts cs) (applyAll s spec opts cs)
      fun _ _ => True := by
  induction cs with
  | nil => exact .pure trivial
  | cons c cs ih =>
    obtain ⟨hc, hnodup⟩ := List.nodup_cons.1 hnodup
    refine Resumes.bind (resumes_applied hkubelet hopts) (fun a b _ => ?_) (by simpa using hc)
    exact (ih hnodup).bind_pure fun _ _ _ => trivial

theorem resumes_deleteAll (hnodup : cs.Nodup) :
    Resumes x kubelet spec cs (deleteAll kubelet spec cs) (deleteAll kubelet spec cs)
      fun _ _ => True := by
  induction cs with
  | nil => exact .pure trivial
  | cons c cs ih =>
    obtain ⟨hc, hnodup⟩ := List.nodup_cons.1 hnodup
    refine Resumes.bind resumes_deleteIfExists (fun a b _ => ?_) (by simpa using hc)
    exact (ih hnodup).bind_pure fun _ _ _ => trivial

theorem resumes_applyIf (wanted : Bool) (hkubelet : s.kubelet = kubelet) (hopts : opts.Proper)
    (hnodup : cs.Nodup) :
    Resumes x kubelet spec cs (applyIf wanted s spec opts cs) (applyIf wanted s spec opts cs)
      fun _ _ => True := by
  subst hkubelet
  unfold applyIf
  split
  · exact resumes_applyAll rfl hopts hnodup
  · exact resumes_deleteAll hnodup

theorem resumes_applyResolver (hkubelet : s.kubelet = kubelet) (hopts : opts.Proper) :
    Resumes x kubelet spec [.resolverService, .resolver] (applyResolver s spec opts)
      (applyResolver s spec opts) fun _ _ => True := by
  subst hkubelet
  unfold applyResolver
  dsimp only
  split
  · refine Resumes.nil_bind resumes_nodeCount ?_
    rintro _ nodes rfl
    exact resumes_applyAll (s := { s with nodes := some nodes }) rfl hopts (by decide)
  · exact resumes_deleteAll (by decide)

theorem resumes_applyWebhooks (hkubelet : s.kubelet = kubelet) (hopts : opts.Proper)
    (stored : Dict Bytes) :
    Resumes x kubelet spec webhooks (applyWebhooks s spec opts stored)
      (applyWebhooks s spec opts stored) fun _ _ => True := by
  subst hkubelet
  unfold applyWebhooks
  refine Resumes.nil_bind (resumes_ofExcept _) ?_
  rintro _ tls rfl
  refine Resumes.bind (resumes_applied (s := { s with tls := some tls }) rfl hopts)
    (fun validating validating' _ => ?_) (by decide)
  dsimp only
  split
  · simp only [map_eq_pure_bind, bind_assoc, pure_bind]
    exact (resumes_applied (c := .mutatingWebhook) (s := { s with tls := some tls }) rfl
      hopts).bind_pure fun _ _ _ => trivial
  · exact (resumes_deleteAll (by decide)).bind_pure fun _ _ _ => trivial

/-! ## The enforcer -/

/-- The steps of the enforcer answered the same objects. -/
def SameObjects (a b : EnforcerObjects) : Prop :=
  b.secret.object = a.secret.object ∧ b.deployment.object = a.deployment.object

theorem resumes_enforcerSteps (hkubelet : s.kubelet = kubelet) (hopts : opts.Proper) :
    Resumes x kubelet spec enforcerComponents (enforcerSteps s spec opts)
      (enforcerSteps s spec opts) SameObjects := by
  unfold enforcerSteps enforcerComponents
  have hsecret : Resumes x kubelet spec [.enforcerTls]
      (applied .enforcerTls s spec { opts with createOnly := true })
      (applied .enforcerTls s spec { opts with createOnly := true })
      fun a b => b.object = a.object := resumes_applied hkubelet hopts
  refine Resumes.bind hsecret (fun secret secret' hsecret => ?_) (by decide)
  refine Resumes.bind (resumes_applied hkubelet hopts) (fun service service' _ => ?_) (by decide)
  exact (resumes_applied hkubelet hopts).bind_pure fun _ _ hdeployment => ⟨hsecret, hdeployment⟩

theorem resumes_enforcerWebhooks (hkubelet : s.kubelet = kubelet) (hopts : opts.Proper)
    {a b : EnforcerObjects} (hsame : SameObjects a b) :
    Resumes x kubelet spec webhooks (enforcerWebhooks s spec opts a)
      (enforcerWebhooks s spec opts b) fun _ _ => True := by
  subst hkubelet
  unfold enforcerWebhooks
  rw [hsame.1, hsame.2]
  refine Resumes.nil_bind (resumes_ofExcept _) ?_
  rintro _ stored rfl
  refine Resumes.nil_bind (resumes_ofExcept _) ?_
  rintro _ ready rfl
  split
  · exact (resumes_deleteAll (by decide)).bind_pure fun _ _ _ => trivial
  · exact (resumes_applyWebhooks rfl hopts _).bind_pure fun _ _ _ => trivial

theorem resumes_afterSteps (hkubelet : s.kubelet = kubelet) (hopts : opts.Proper)
    {r r' : Except Error EnforcerObjects} (halike : Alike SameObjects r r') :
    Resumes x kubelet spec webhooks (afterSteps s spec opts r) (afterSteps s spec opts r')
      fun _ _ => True := by
  subst hkubelet
  cases r <;> cases r'
  · rename_i e e'
    cases halike
    have hpull : Resumes x s.kubelet spec (webhooks ++ [])
        (deleteAll s.kubelet spec webhooks >>= fun _ => throw e)
        (deleteAll s.kubelet spec webhooks >>= fun _ => throw e) fun (_ _ : Bool) => True :=
      (resumes_deleteAll (by decide)).bind (fun _ _ _ => .throw e) fun _ _ => List.not_mem_nil
    exact hpull
  · exact halike.elim
  · exact halike.elim
  · exact resumes_enforcerWebhooks rfl hopts halike

/-- Also after a failed step, the enforcer is taken up where it was left. -/
theorem resumes_applyEnforcer (hkubelet : s.kubelet = kubelet) (hopts : opts.Proper) :
    Resumes x kubelet spec (enforcerComponents ++ webhooks) (applyEnforcer s spec opts)
      (applyEnforcer s spec opts) fun _ _ => True :=
  (resumes_enforcerSteps hkubelet hopts).continue (continues_applyEnforcer s spec opts)
    (continues_applyEnforcer s spec opts) (fun _ _ => resumes_afterSteps hkubelet hopts) (by decide)

/-! ## The whole dataplane -/

theorem resumes_applyLater (hkubelet : s.kubelet = kubelet) (hopts : opts.Proper)
    {changed changed' : Bool} :
    Resumes x kubelet spec laterComponents (applyLater s spec opts changed)
      (applyLater s spec opts changed') fun _ _ => True := by
  unfold applyLater laterComponents
  refine Resumes.bind (resumes_applyAll hkubelet hopts (by decide)) (fun _ _ _ => ?_) (by decide)
  refine Resumes.bind (resumes_applyResolver hkubelet hopts) (fun _ _ _ => ?_) (by decide)
  refine Resumes.bind (resumes_applyIf _ hkubelet hopts (by decide)) (fun _ _ _ => ?_) (by decide)
  exact (resumes_applyIf _ hkubelet hopts (by decide)).bind_pure fun _ _ _ => trivial

/-- A pass is taken up where it was left. -/
theorem resumes_applyKnown {registry : RegistryCredentials} {setOwner : Option OwnerSetter}
    (hopts : ApplyOptions.Proper { setOwner }) :
    Resumes x kubelet spec (coreComponents ++ ((enforcerComponents ++ webhooks) ++ laterComponents))
      (applyKnown kubelet spec registry setOwner) (applyKnown kubelet spec registry setOwner)
      fun _ _ => True := by
  unfold applyKnown
  refine Resumes.bind (resumes_applyAll rfl hopts (by decide)) (fun _ _ _ => ?_) (by decide)
  refine Resumes.bind (resumes_applyEnforcer rfl hopts) (fun _ _ _ => ?_) (by decide)
  exact resumes_applyLater (s := { kubelet, registry := some registry }) rfl hopts

end Pass

end AgentOperator.Dataplane
