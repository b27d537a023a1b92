import AgentOperator.Proofs.Applying

/-!
AgentOperator.Proofs.Moments — the requests of a run, each with the scene in
which it is made.

What a script asks for and what it leaves behind when it is cut off are both
told by its moments (`Setting.moments`, `Setting.Cut`). The lemmas of this module
take them apart, one construct of a task or a pass at a time.
-/

namespace AgentOperator.Dataplane

open Kube (Object)
open Store (Call Table)

/-! ## Moments -/

/-- A request, and the scene in which it is made. -/
structure Moment where
  scene : Scene
  request : Request

namespace Setting

variable {α β : Type}

/-- The requests a script makes, one after the other. -/
def moments (x : Setting) : Script outside α → Scene → List Moment
  | .done _, _ => []
  | .ask r next, w => ⟨w, r⟩ :: x.moments (next (x.answer r w).1) (x.answer r w).2

theorem moments_bind (x : Setting) (s : Script outside α) (k : α → Script outside β) (w : Scene) :
    x.moments (s.bind k) w
      = x.moments s w ++ x.moments (k (s.run x.answer w).1) (s.run x.answer w).2 := by
  induction s generalizing w with
  | done a => rfl
  | ask r next ih =>
    rw [Script.ask_bind, moments, moments, ih]
    rfl

/-- What a script that is cut off leaves behind: the store of a request it does
not come to make, or that of its end. -/
def Cut (x : Setting) (s : Script outside α) (t u : Table) : Prop :=
  (∃ v ∈ x.moments s ⟨t, []⟩, v.scene.store = u) ∨ (s.run x.answer ⟨t, []⟩).2.store = u

end Setting

namespace Task

variable {α β : Type} {x : Setting} {w : Scene} {v : Moment}

def moments (x : Setting) (t : Task α) (w : Scene) : List Moment := x.moments t.run w

theorem mem_moments_bind {t : Task α} {k : α → Task β} (h : v ∈ moments x (t >>= k) w) :
    v ∈ moments x t w ∨ ∃ a w₁, runIn x t w = (.ok a, w₁) ∧ v ∈ moments x (k a) w₁ := by
  replace h : v ∈ x.moments (t.run.bind (ExceptT.bindCont k)) w := h
  rw [Setting.moments_bind] at h
  rcases List.mem_append.1 h with hfirst | hnext
  · exact .inl hfirst
  · refine .inr ?_
    replace hnext : v ∈ x.moments (ExceptT.bindCont k (runIn x t w).1) (runIn x t w).2 := hnext
    rcases hrun : runIn x t w with ⟨_ | a, w₁⟩ <;> rw [hrun] at hnext
    · cases hnext
    · exact ⟨a, w₁, rfl, hnext⟩

end Task

namespace Pass

variable {α β : Type} {x : Setting} {m : Memory} {w : Scene} {v : Moment}

def moments (x : Setting) (p : Pass α) (m : Memory) (w : Scene) : List Moment :=
  x.moments (p.run.run m) w

theorem moments_ofTask (t : Task α) : moments x (ofTask t) m w = Task.moments x t w := by
  have happend := x.moments_bind t.run (fun r => pure (r, m)) w
  exact happend.trans (List.append_nil _)

theorem mem_moments_bind {p : Pass α} {k : α → Pass β} (h : v ∈ moments x (p >>= k) m w) :
    v ∈ moments x p m w ∨
      ∃ a m₁ w₁, runIn x p m w = ((.ok a, m₁), w₁) ∧ v ∈ moments x (k a) m₁ w₁ := by
  replace h : v ∈ x.moments ((p.run.run m).bind fun r => (ExceptT.bindCont k r.1).run r.2) w := h
  rw [Setting.moments_bind] at h
  rcases List.mem_append.1 h with hfirst | hnext
  · exact .inl hfirst
  · refine .inr ?_
    replace hnext : v ∈ x.moments ((ExceptT.bindCont k (runIn x p m w).1.1).run
      (runIn x p m w).1.2) (runIn x p m w).2 := hnext
    rcases hrun : runIn x p m w with ⟨⟨_ | a, m₁⟩, w₁⟩ <;> rw [hrun] at hnext
    · cases hnext
    · exact ⟨a, m₁, w₁, rfl, hnext⟩

theorem mem_moments_tryCatch {p : Pass α} {k : Error → Pass α}
    (h : v ∈ moments x (tryCatch p k) m w) :
    v ∈ moments x p m w ∨
      ∃ e m₁ w₁, runIn x p m w = ((.error e, m₁), w₁) ∧ v ∈ moments x (k e) m₁ w₁ := by
  rw [tryCatch_eq] at h
  replace h : v ∈ x.moments ((p.run.run m).bind fun r => (caught k r.1).run r.2) w := h
  rw [Setting.moments_bind] at h
  rcases List.mem_append.1 h with hfirst | hnext
  · exact .inl hfirst
  · refine .inr ?_
    replace hnext : v ∈ x.moments ((caught k (runIn x p m w).1.1).run (runIn x p m w).1.2)
      (runIn x p m w).2 := hnext
    rcases hrun : runIn x p m w with ⟨⟨e | a, m₁⟩, w₁⟩ <;> rw [hrun] at hnext
    · exact ⟨e, m₁, w₁, rfl, hnext⟩
    · cases hnext

theorem moments_kubeletVersion (h : v ∈ moments x kubeletVersion m w) :
    v = ⟨w, .kubeletVersion⟩ := by
  unfold kubeletVersion at h
  rcases mem_moments_bind h with hget | ⟨m₀, m₁, w₁, hget, hask⟩
  · cases hget
  · cases hget
    cases hm : m.kubelet with
    | some kubelet =>
      rw [hm] at hask
      cases hask
    | none =>
      rw [hm] at hask
      rcases mem_moments_bind hask with hfirst | ⟨version, m₁, w₁, -, hdone⟩
      · rw [moments_ofTask] at hfirst
        exact List.mem_singleton.1 hfirst
      · cases hdone

/-- Asking for the kubelet version is nothing to the store. -/
theorem runIn_kubeletVersion_scene {m' : Memory} {w' : Scene} {r : Except Error String}
    (h : runIn x kubeletVersion m w = ((r, m'), w')) : w' = w := by
  cases hm : m.kubelet with
  | some kubelet =>
    rw [runIn_kubeletVersion_of_known hm] at h
    cases h
    rfl
  | none =>
    rw [runIn_kubeletVersion_of_unknown hm] at h
    cases hx : x.kubelet <;> rw [hx] at h <;> cases h <;> rfl

end Pass

/-! ## Components -/

variable {α : Type} {x : Setting} {c : Component} {s : Surroundings} {spec : Agent.Spec}
  {opts : ApplyOptions}

/-- Only the certificate of the enforcer is asked for from outside. -/
theorem moments_surroundings {source : Object} {v : Moment} {w : Scene}
    (h : v ∈ Task.moments x (c.surroundings s spec source) w) :
    c = .enforcerTls ∧ v = ⟨w, .issueTls (enforcerServiceKey spec)⟩ := by
  cases c
  case enforcerTls =>
    rcases Task.mem_moments_bind h with hchecked | ⟨_, w₁, hchecked, hissued⟩
    · cases hchecked
    rw [Task.runIn_ofExcept] at hchecked
    obtain ⟨-, rfl⟩ := Prod.mk.inj hchecked
    rcases Task.mem_moments_bind hissued with hask | ⟨_, _, -, hdone⟩
    · exact ⟨rfl, List.mem_singleton.1 hask⟩
    · cases hdone
  all_goals cases h

/-- Before what is wanted is known, nothing is asked for but a certificate. -/
theorem moments_desired {f : Object → Object} {source : Object} {k : Object → Task α} {v : Moment}
    {w : Scene} (hkind : source.kind = c.kind) (h : v ∈ Task.moments x (do
      let o ← c.desired s spec source
      let o ← Task.ofExcept (opts.own (f o))
      k o) w) :
    (c = .enforcerTls ∧ v = ⟨w, .issueTls (enforcerServiceKey spec)⟩) ∨
      ∃ o, (do
        let s' ← x.surroundings c s spec
        opts.own (f (← c.mutate s' spec source)) : Except Error Object) = .ok o ∧
        v ∈ Task.moments x (k o) w := by
  rcases Task.mem_moments_bind h with hdesired | ⟨o₁, w₁, hdesired, hown⟩
  · rcases Task.mem_moments_bind hdesired with hask | ⟨s', w₁, -, hdone⟩
    · exact .inl (moments_surroundings hask)
    · cases hdone
  · obtain ⟨s', w₂, hasked, hmutated⟩ :=
      (Task.runIn_bind_eq.1 hdesired).resolve_left fun ⟨_, _, hfailed⟩ => by cases hfailed
    rw [runIn_surroundings hkind] at hasked
    obtain ⟨hs', rfl⟩ := Prod.mk.inj hasked
    rw [Task.runIn_ofExcept] at hmutated
    obtain ⟨hmutate, rfl⟩ := Prod.mk.inj hmutated
    rcases Task.mem_moments_bind hown with hnone | ⟨o, w₃, howned, hk⟩
    · cases hnone
    · rw [Task.runIn_ofExcept] at howned
      obtain ⟨hown, rfl⟩ := Prod.mk.inj howned
      refine .inr ⟨o, ?_, hk⟩
      exact Except.bind_eq_ok.2 ⟨s', hs', Except.bind_eq_ok.2 ⟨o₁, hmutate, hown⟩⟩

/-- A write that is followed by no more than an answer. -/
theorem moments_write {call : Call} {a : α} {v : Moment} {w : Scene}
    (h : v ∈ Task.moments x (Task.ask (.store call) >>= fun _ => pure a) w) :
    v = ⟨w, .store call⟩ := by
  rcases Task.mem_moments_bind h with hask | ⟨_, _, -, hdone⟩
  · exact List.mem_singleton.1 hask
  · cases hdone

end AgentOperator.Dataplane
