/-!
AgentOperator.Script — programs that ask the outside for things and go on with
the replies.

A `Script` is a tree of requests: what it does depends on the replies alone, so
one script can be run against a cluster, against a store in memory, or against
a store that fails at will. `Script.run` runs it in any monad that answers its
requests.
-/

namespace AgentOperator

/-- What a program may ask, and what it is told. -/
structure Interface where
  Request : Type
  Reply : Request → Type

inductive Script (I : Interface) (α : Type) where
  | done (result : α)
  | ask (request : I.Request) (next : I.Reply request → Script I α)

namespace Script

variable {I : Interface} {α β : Type}

/-- Goes on with the result of a script. -/
def bind : Script I α → (α → Script I β) → Script I β
  | .done a, k => k a
  | .ask r next, k => .ask r fun reply => (next reply).bind k

instance : Monad (Script I) where
  pure := .done
  bind := bind

/-- Asks one thing. -/
def request (r : I.Request) : Script I (I.Reply r) := .ask r .done

/-- Runs a script in a monad that answers its requests. -/
def run {m : Type → Type} [Monad m] (answer : (r : I.Request) → m (I.Reply r)) :
    Script I α → m α
  | .done a => pure a
  | .ask r next => answer r >>= fun reply => (next reply).run answer

@[simp] theorem done_bind (a : α) (k : α → Script I β) : (Script.done a).bind k = k a := rfl

@[simp] theorem ask_bind (r : I.Request) (next : I.Reply r → Script I α) (k : α → Script I β) :
    (Script.ask r next).bind k = .ask r fun reply => (next reply).bind k := rfl

theorem bind_done (s : Script I α) : s.bind .done = s := by
  induction s with
  | done a => rfl
  | ask r next ih => simp [ih]

theorem bind_assoc {γ : Type} (s : Script I α) (k : α → Script I β) (l : β → Script I γ) :
    (s.bind k).bind l = s.bind fun a => (k a).bind l := by
  induction s with
  | done a => rfl
  | ask r next ih => simp [ih]

instance : LawfulMonad (Script I) :=
  LawfulMonad.mk' (Script I) (fun s => bind_done s) (fun _ _ => rfl) bind_assoc

/-- Running a script that goes on is running it and going on. -/
theorem run_bind {m : Type → Type} [Monad m] [LawfulMonad m]
    (answer : (r : I.Request) → m (I.Reply r)) (s : Script I α) (k : α → Script I β) :
    (s.bind k).run answer = s.run answer >>= fun a => (k a).run answer := by
  induction s with
  | done a => simp [run]
  | ask r next ih => simp [run, ih]

end Script

/-- A script that may fail. -/
abbrev Attempt (I : Interface) (ε : Type) := ExceptT ε (Script I)

end AgentOperator
