import AgentOperator.Dataplane.Pass
import AgentOperator.Proofs.Orderly

/-!
AgentOperator.Proofs.Settling — passes after which the same pass only reads.

`Pass.Settles` compares two passes, the one that is run now and the one that is
run afterwards: both are the same code, but the second one is answered
differently on the way. Whenever the first succeeds, the second *rests* on what
it left behind: it succeeds without a write, and looks at no other components.
Since components do not touch each other, passes that settle can be put one
after the other (`Settles.bind`), and a whole pass settles because its steps do.
-/

namespace AgentOperator.Dataplane

open Kube (Object ObjectKey)
open Store (Call Place Table placeOf)

/-- An outside in which no reading fails. -/
def Setting.Readable (y : Setting) : Prop :=
  ∀ n (template : Object) (key : ObjectKey), y.failure n (.get template key) = none

/-- Two stores hold the same of these components. -/
def SameOf (spec : Agent.Spec) (cs : List Component) (t u : Table) : Prop :=
  ∀ c ∈ cs, u.get? (c.place spec) = t.get? (c.place spec)

namespace Pass

variable {α β : Type} {x y : Setting} {kubelet : String} {spec : Agent.Spec}
  {cs ds : List Component} {t u : Table} {p q : Pass α} {R : α → α → Prop}

/-! ## Resting -/

/-- On every store that holds the same of these components, the pass ends with
this result and makes no call but readings. -/
def Rests (y : Setting) (kubelet : String) (spec : Agent.Spec) (cs : List Component) (t : Table)
    (q : Pass α) (b : α) : Prop :=
  ∀ m w, m.kubelet = some kubelet → SameOf spec cs t w.store →
    ∃ reads : List Made, (∀ made ∈ reads, made.call.isWrite = false) ∧
      runIn y q m w = ((.ok b, m), { w with calls := w.calls ++ reads })

theorem Rests.pure (b : α) : Rests y kubelet spec cs t (Pure.pure b) b := by
  intro m w hm hsame
  refine ⟨[], fun _ hmade => (by cases hmade), ?_⟩
  rw [runIn_pure, List.append_nil]

theorem Rests.bind {g : α → Pass β} {b : α} {d : β} (hq : Rests y kubelet spec cs t q b)
    (hg : Rests y kubelet spec cs t (g b) d) : Rests y kubelet spec cs t (q >>= g) d := by
  intro m w hm hsame
  obtain ⟨reads, hreads, hrun⟩ := hq m w hm hsame
  obtain ⟨reads', hreads', hrun'⟩ := hg m { w with calls := w.calls ++ reads } hm hsame
  refine ⟨reads ++ reads', ?_, ?_⟩
  · intro made hmade
    exact (List.mem_append.1 hmade).elim (hreads made) (hreads' made)
  · rw [runIn_bind, hrun]
    dsimp only
    rw [hrun', List.append_assoc]

theorem Rests.tryCatch {b : α} (hq : Rests y kubelet spec cs t q b) (handler : Error → Pass α) :
    Rests y kubelet spec cs t (tryCatch q handler) b := by
  intro m w hm hsame
  obtain ⟨reads, hreads, hrun⟩ := hq m w hm hsame
  refine ⟨reads, hreads, ?_⟩
  rw [runIn_tryCatch, hrun]

/-- A pass also rests on other stores that hold the same of its components. -/
theorem Rests.of_same {b : α} (hq : Rests y kubelet spec cs t q b) (hsame : SameOf spec cs t u)
    (hsub : ∀ c ∈ cs, c ∈ ds) : Rests y kubelet spec ds u q b := by
  intro m w hm hw
  refine hq m w hm fun c hc => ?_
  rw [hw c (hsub c hc), hsame c hc]

/-! ## Settling -/

/-- What a pass that settles leaves behind, with the result `r`. -/
structure Left (y : Setting) (kubelet : String) (spec : Agent.Spec) (cs : List Component)
    (q : Pass α) (R : α → α → Prop) (t : Table) (r : Except Error α) (m' : Memory) (t' : Table) :
    Prop where
  known : m'.kubelet = some kubelet
  orderly : Orderly kubelet t'
  frame : ∀ a, r = .ok a → ∀ c ∉ cs, t'.get? (c.place spec) = t.get? (c.place spec)
  rests : ∀ a, r = .ok a → ∃ b, R a b ∧ q.Rests y kubelet spec cs t' b

/-- Whenever the pass `p` succeeds, `q` rests on what it left behind. However it
ends, the store stays orderly. -/
structure Settles (x y : Setting) (kubelet : String) (spec : Agent.Spec) (cs : List Component)
    (p q : Pass α) (R : α → α → Prop) : Prop where
  left : ∀ {m w r m' w'}, m.kubelet = some kubelet → Orderly kubelet w.store →
    runIn x p m w = ((r, m'), w') → Left y kubelet spec cs q R w.store r m' w'.store

/-- A pass that failed leaves nothing to rest on. -/
theorem Left.of_error {m' : Memory} {t' : Table} {e : Error} (hm : m'.kubelet = some kubelet)
    (ht : Orderly kubelet t') : Left y kubelet spec cs q R t (.error e) m' t' :=
  ⟨hm, ht, fun _ h => (by cases h), fun _ h => (by cases h)⟩

theorem Settles.pure {a b : α} (h : R a b) :
    Settles x y kubelet spec cs (Pure.pure a) (Pure.pure b) R := by
  refine ⟨fun {m w r m' w'} hm hw hrun => ?_⟩
  cases hrun
  refine ⟨hm, hw, fun _ _ _ _ => rfl, ?_⟩
  intro a' ha
  cases ha
  exact ⟨b, h, .pure b⟩

theorem Settles.throw (e : Error) : Settles x y kubelet spec cs (MonadExcept.throw e) q R := by
  refine ⟨fun {m w r m' w'} hm hw hrun => ?_⟩
  cases hrun
  exact .of_error hm hw

/-- Passes over different components settle one after the other. -/
theorem Settles.bind {f g : α → Pass β} {S : β → β → Prop}
    (hp : Settles x y kubelet spec cs p q R)
    (hf : ∀ a b, R a b → Settles x y kubelet spec ds (f a) (g b) S)
    (hdisjoint : ∀ c ∈ cs, c ∉ ds) :
    Settles x y kubelet spec (cs ++ ds) (p >>= f) (q >>= g) S := by
  refine ⟨fun {m w r m' w'} hm hw hrun => ?_⟩
  rcases runIn_bind_eq.1 hrun with ⟨e, hstop, rfl⟩ | ⟨a, m₁, w₁, hfirst, hnext⟩
  · have hleft := hp.left hm hw hstop
    exact .of_error hleft.known hleft.orderly
  · have hleft := hp.left hm hw hfirst
    obtain ⟨b, hab, hrests⟩ := hleft.rests a rfl
    have hleft' := (hf a b hab).left hleft.known hleft.orderly hnext
    refine ⟨hleft'.known, hleft'.orderly, ?_, ?_⟩
    · intro a' ha c hc
      rw [List.mem_append, not_or] at hc
      rw [hleft'.frame a' ha c hc.2, hleft.frame a rfl c hc.1]
    · intro a' ha
      obtain ⟨d, had, hrests'⟩ := hleft'.rests a' ha
      have hsame : SameOf spec cs w₁.store w'.store :=
        fun c hc => hleft'.frame a' ha c (hdisjoint c hc)
      refine ⟨d, had, Rests.bind (hrests.of_same hsame fun c => List.mem_append_left ds) ?_⟩
      exact hrests'.of_same (fun _ _ => rfl) fun c => List.mem_append_right cs

/-- A step that touches no component can stand before any other. -/
theorem Settles.nil_bind {f g : α → Pass β} {S : β → β → Prop}
    (hp : Settles x y kubelet spec [] p q R)
    (hf : ∀ a b, R a b → Settles x y kubelet spec cs (f a) (g b) S) :
    Settles x y kubelet spec cs (p >>= f) (q >>= g) S :=
  hp.bind hf fun _ hc => (by cases hc)

/-- What is made of the result is made without requests. -/
theorem Settles.bind_pure {f g : α → β} {S : β → β → Prop}
    (hp : Settles x y kubelet spec cs p q R) (hf : ∀ a b, R a b → S (f a) (g b)) :
    Settles x y kubelet spec cs (p >>= fun a => Pure.pure (f a)) (q >>= fun b => Pure.pure (g b))
      S := by
  have hbind : Settles x y kubelet spec (cs ++ []) (p >>= fun a => Pure.pure (f a))
      (q >>= fun b => Pure.pure (g b)) S :=
    hp.bind (fun a b hab => .pure (hf a b hab)) fun c _ => List.not_mem_nil
  rwa [List.append_nil] at hbind

/-- What is done when a pass fails does not matter, as long as the failure is
passed on. -/
theorem Settles.tryCatch {handler : Error → Pass α} (h : Settles x y kubelet spec cs p q R)
    (hhandler : ∀ e, Settles x y kubelet spec ds (handler e) (handler e) fun _ _ => False) :
    Settles x y kubelet spec cs (tryCatch p handler) (tryCatch q handler) R := by
  refine ⟨fun {m w r m' w'} hm hw hrun => ?_⟩
  rw [runIn_tryCatch] at hrun
  rcases hp : runIn x p m w with ⟨⟨_ | a, m₁⟩, w₁⟩ <;> rw [hp] at hrun
  · rename_i e
    have hfailed := h.left hm hw hp
    have hleft := (hhandler e).left hfailed.known hfailed.orderly hrun
    cases r with
    | error e' => exact .of_error hleft.known hleft.orderly
    | ok a =>
      obtain ⟨b, hnever, -⟩ := hleft.rests a rfl
      exact hnever.elim
  · cases hrun
    have hleft := h.left hm hw hp
    refine ⟨hleft.known, hleft.orderly, hleft.frame, ?_⟩
    intro a' ha
    obtain ⟨b, hab, hrests⟩ := hleft.rests a' ha
    exact ⟨b, hab, hrests.tryCatch handler⟩

/-! ## Steps that settle -/

/-- What is computed without requests is the same the second time. -/
theorem settles_ofExcept (r : Except Error α) :
    Settles x y kubelet spec cs (ofTask (Task.ofExcept r)) (ofTask (Task.ofExcept r))
      fun a b => b = a ∧ r = .ok a := by
  refine ⟨fun {m w r' m' w'} hm hw hrun => ?_⟩
  obtain ⟨rfl, htask⟩ := runIn_ofTask_eq.1 hrun
  cases htask
  refine ⟨hm, hw, fun _ _ _ _ => rfl, ?_⟩
  rintro a rfl
  exact ⟨a, ⟨rfl, rfl⟩, .pure a⟩

theorem settles_nodeCount (hnodes : y.nodes = x.nodes) :
    Settles x y kubelet spec cs (ofTask Task.nodeCount) (ofTask Task.nodeCount) fun a b => b = a := by
  refine ⟨fun {m w r m' w'} hm hw hrun => ?_⟩
  obtain ⟨rfl, htask⟩ := runIn_ofTask_eq.1 hrun
  rw [Task.runIn_nodeCount] at htask
  obtain ⟨hr, rfl⟩ := Prod.mk.inj htask
  refine ⟨hm, hw, fun _ _ _ _ => rfl, ?_⟩
  rintro a rfl
  refine ⟨a, rfl, ?_⟩
  intro m w hm hsame
  refine ⟨[], fun _ hmade => (by cases hmade), ?_⟩
  rw [runIn_ofTask, Task.runIn_nodeCount, hnodes, hr, List.append_nil]

theorem settles_kubeletVersion :
    Settles x y kubelet spec cs kubeletVersion kubeletVersion
      fun a b => a = kubelet ∧ b = kubelet := by
  refine ⟨fun {m w r m' w'} hm hw hrun => ?_⟩
  rw [runIn_kubeletVersion_of_known hm] at hrun
  cases hrun
  refine ⟨hm, hw, fun _ _ _ _ => rfl, ?_⟩
  intro a ha
  cases ha
  refine ⟨kubelet, ⟨rfl, rfl⟩, ?_⟩
  intro m w hm hsame
  refine ⟨[], fun _ hmade => (by cases hmade), ?_⟩
  rw [runIn_kubeletVersion_of_known hm, List.append_nil]

/-- A component that was brought to the spec is found as it was answered. Only
a certificate would be another one, and it is not asked for again. -/
theorem settles_applied {c : Component} {s : Surroundings} {opts : ApplyOptions}
    (hkubelet : s.kubelet = kubelet) (hopts : opts.Proper)
    (honly : c = .enforcerTls → opts.createOnly = true) (hy : y.Readable) :
    Settles x y kubelet spec [c] (applied c s spec opts) (applied c s spec opts)
      fun a b => b = ⟨false, a.object⟩ := by
  subst hkubelet
  refine ⟨fun {m w r m' w'} hm hw hrun => ?_⟩
  obtain ⟨hmemory, happly⟩ := applying_of_applied hrun
  refine ⟨hmemory.trans hm, happly.orderly hopts hw, ?_, ?_⟩
  · rintro a rfl d hd
    refine happly.get?_of_ne hopts hw.placed fun hplace => ?_
    exact hd (List.mem_singleton.2 (Component.eq_of_place hplace))
  · rintro a rfl
    have hstored := happly.stored_after hopts hw.placed
    have hagain := happly.again hopts hw
    refine ⟨⟨false, a.object⟩, rfl, ?_⟩
    intro m w hm hsame
    have hread : c.stored s.kubelet spec w.store = .ok (some a.object) := by
      rw [stored_congr (hsame c (List.mem_singleton_self c)), hstored]
    have hagain' : opts.createOnly = true ∨
        y.wanted c s spec opts (some a.object) = .ok a.object := by
      by_cases hc : c = .enforcerTls
      · exact .inl (honly hc)
      · rwa [wanted_congr (x := x) hc]
    refine ⟨[⟨.get (c.emptyObject s.kubelet) (c.key spec), false⟩], ?_, ?_⟩
    · intro made hmade
      cases List.mem_singleton.1 hmade
      rfl
    · rw [runIn_applied, runIn_apply_of_same (hy ..) hread hagain']
      rfl

theorem settles_deleteIfExists {c : Component} (hy : y.Readable) :
    Settles x y kubelet spec [c] (ofTask (deleteIfExists c kubelet spec))
      (ofTask (deleteIfExists c kubelet spec)) fun _ b => b = false := by
  refine ⟨fun {m w r m' w'} hm hw hrun => ?_⟩
  obtain ⟨rfl, htask⟩ := runIn_ofTask_eq.1 hrun
  have hdelete := deleting_of_runIn htask
  refine ⟨hm, hdelete.orderly hw, ?_, ?_⟩
  · rintro a rfl d hd
    refine hdelete.get?_of_ne hw.placed fun hplace => ?_
    exact hd (List.mem_singleton.2 (Component.eq_of_place hplace))
  · rintro a rfl
    have habsent := hdelete.absent_after hw.placed
    refine ⟨false, rfl, ?_⟩
    intro m w hm hsame
    have hread : c.stored kubelet spec w.store = .ok none := by
      refine Table.read_of_none ?_
      rw [emptyObject_kind]
      exact (hsame c (List.mem_singleton_self c)).trans habsent
    refine ⟨[⟨.get (c.emptyObject kubelet) (c.key spec), false⟩], ?_, ?_⟩
    · intro made hmade
      cases List.mem_singleton.1 hmade
      rfl
    · rw [runIn_ofTask, runIn_deleteIfExists_of_absent (hy ..) hread]

theorem settles_applyAll {s : Surroundings} {opts : ApplyOptions} (hkubelet : s.kubelet = kubelet)
    (hopts : opts.Proper) (hy : y.Readable) (hnodup : cs.Nodup) (htls : .enforcerTls ∉ cs) :
    Settles x y kubelet spec cs (applyAll s spec opts cs) (applyAll s spec opts cs)
      fun _ b => b = false := by
  induction cs with
  | nil => exact .pure rfl
  | cons c cs ih =>
    obtain ⟨hc, hnodup⟩ := List.nodup_cons.1 hnodup
    obtain ⟨hne, htls⟩ := not_or.1 (mt List.mem_cons.2 htls)
    have hfirst : Settles x y kubelet spec [c] (applied c s spec opts) (applied c s spec opts)
        fun a b => b = ⟨false, a.object⟩ :=
      settles_applied hkubelet hopts (fun h => absurd h.symm hne) hy
    refine Settles.bind hfirst ?_ (by simpa using hc)
    rintro a b rfl
    refine (ih hnodup htls).bind_pure ?_
    rintro a' b' rfl
    rfl

theorem settles_deleteAll (hy : y.Readable) (hnodup : cs.Nodup) :
    Settles x y kubelet spec cs (deleteAll kubelet spec cs) (deleteAll kubelet spec cs)
      fun _ b => b = false := by
  induction cs with
  | nil => exact .pure rfl
  | cons c cs ih =>
    obtain ⟨hc, hnodup⟩ := List.nodup_cons.1 hnodup
    refine Settles.bind (settles_deleteIfExists hy) ?_ (by simpa using hc)
    rintro a b rfl
    refine (ih hnodup).bind_pure ?_
    rintro a' b' rfl
    rfl

end Pass

end AgentOperator.Dataplane
