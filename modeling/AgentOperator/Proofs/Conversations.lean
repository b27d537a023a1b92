import AgentOperator.Script

/-!
AgentOperator.Proofs.Conversations — scripts against an outside that may say anything.

A script is answered request by request, and nothing is assumed of the replies. What was
said is a list of exchanges, and `Script.Converses s log a` says that the script can go
along with `log` and come to `a`. What holds of every conversation of a script holds
whatever it talks to: every run against an outside that is a value is a conversation
(`Script.exists_converses`).

A conversation of a script is taken apart along the script: that of a first part is a
prefix of it (`converses_bind_iff`), and work that fails has no other part after it
(`Attempt.converses_bind_iff`, `Deed.converses_bind_iff`).
-/

namespace AgentOperator

/-- A request with the reply to it. -/
structure Exchange (I : Interface) where
  request : I.Request
  reply : I.Reply request

namespace Script

variable {I J : Interface} {α β σ : Type}

/-- The script goes along with these exchanges to the end, where it has this result. -/
inductive Converses : Script I α → List (Exchange I) → α → Prop where
  | done (a : α) : Converses (.done a) [] a
  | ask {r : I.Request} {next : I.Reply r → Script I α} {reply : I.Reply r}
      {log : List (Exchange I)} {a : α} (h : Converses (next reply) log a) :
    Converses (.ask r next) (⟨r, reply⟩ :: log) a

variable {s : Script I α} {k : α → Script I β} {log : List (Exchange I)} {a : α} {b : β}
  {r : I.Request}

theorem converses_done_iff {a' : α} : (done a).Converses log a' ↔ log = [] ∧ a' = a := by
  constructor
  · rintro ⟨⟩
    exact ⟨rfl, rfl⟩
  · rintro ⟨rfl, rfl⟩
    exact .done _

theorem converses_pure_iff {a' : α} :
    (pure a : Script I α).Converses log a' ↔ log = [] ∧ a' = a :=
  converses_done_iff

theorem converses_ask_iff {next : I.Reply r → Script I α} :
    (ask r next).Converses log a ↔
      ∃ reply rest, log = ⟨r, reply⟩ :: rest ∧ (next reply).Converses rest a := by
  constructor
  · intro h
    cases h with
    | ask h => exact ⟨_, _, rfl, h⟩
  · rintro ⟨reply, rest, rfl, h⟩
    exact .ask h

theorem converses_request_iff {reply : I.Reply r} :
    (request r).Converses log reply ↔ log = [⟨r, reply⟩] := by
  constructor
  · intro h
    obtain ⟨reply', rest, rfl, hrest⟩ := converses_ask_iff.1 h
    obtain ⟨rfl, rfl⟩ := converses_done_iff.1 hrest
    rfl
  · rintro rfl
    exact .ask (.done reply)

theorem Converses.bind {before after : List (Exchange I)} (h : s.Converses before a)
    (hnext : (k a).Converses after b) : (s.bind k).Converses (before ++ after) b := by
  induction h with
  | done a => exact hnext
  | ask h ih => exact .ask (ih hnext)

/-- What a script goes through that goes on with a result is what it goes through to
have the result, and then what it goes through with it. -/
theorem converses_bind_iff :
    (s >>= k).Converses log b ↔
      ∃ before after a, log = before ++ after ∧ s.Converses before a ∧
        (k a).Converses after b := by
  constructor
  · intro h
    change (s.bind k).Converses log b at h
    induction s generalizing log with
    | done a => exact ⟨[], log, a, rfl, .done a, h⟩
    | ask r next ih =>
      obtain ⟨reply, rest, rfl, hrest⟩ := converses_ask_iff.1 h
      obtain ⟨before, after, a, rfl, hbefore, hafter⟩ := ih reply hrest
      exact ⟨⟨r, reply⟩ :: before, after, a, rfl, .ask hbefore, hafter⟩
  · rintro ⟨before, after, a, rfl, hbefore, hafter⟩
    exact hbefore.bind hafter

theorem converses_map_iff {f : α → β} :
    (f <$> s).Converses log b ↔ ∃ a, s.Converses log a ∧ b = f a := by
  rw [map_eq_pure_bind, converses_bind_iff]
  simp only [converses_pure_iff]
  constructor
  · rintro ⟨before, _, a, rfl, hbefore, rfl, rfl⟩
    rw [List.append_nil]
    exact ⟨a, hbefore, rfl⟩
  · rintro ⟨a, hlog, rfl⟩
    exact ⟨log, [], a, (List.append_nil log).symm, hlog, rfl, rfl⟩

/-- Every run against an outside that is a value is a conversation. -/
theorem exists_converses (answer : (r : I.Request) → StateM σ (I.Reply r)) (s : Script I α)
    (w : σ) : ∃ log, s.Converses log ((s.run answer).run w).1 := by
  induction s generalizing w with
  | done a => exact ⟨[], .done a⟩
  | ask r next ih =>
    obtain ⟨log, hlog⟩ := ih ((answer r).run w).1 ((answer r).run w).2
    exact ⟨_, .ask hlog⟩

/-- Where the requests of a script are answered by scripts, what these go through is all
that is said. -/
theorem Converses.of_run {answer : (r : I.Request) → Script J (I.Reply r)}
    {said : List (Exchange J)} (h : (s.run answer).Converses said a) :
    ∃ log, s.Converses log a ∧
      ∀ e ∈ log, ∃ part, part ⊆ said ∧ (answer e.request).Converses part e.reply := by
  induction s generalizing said with
  | done b =>
    obtain ⟨rfl, rfl⟩ := converses_done_iff.1 h
    exact ⟨[], .done _, nofun⟩
  | ask r next ih =>
    obtain ⟨part, rest, reply, rfl, hpart, hrest⟩ := converses_bind_iff.1 h
    obtain ⟨log, hlog, hparts⟩ := ih reply hrest
    refine ⟨⟨r, reply⟩ :: log, .ask hlog, ?_⟩
    intro e he
    rcases List.mem_cons.1 he with rfl | he
    · exact ⟨part, List.subset_append_left _ _, hpart⟩
    · obtain ⟨part', hsub, hpart'⟩ := hparts e he
      exact ⟨part', List.Subset.trans hsub (List.subset_append_right _ _), hpart'⟩

end Script

/-! ## Work that may fail -/

namespace Attempt

variable {I : Interface} {ε α β : Type} {x : Attempt I ε α} {k : α → Attempt I ε β}
  {log : List (Exchange I)} {r : Except ε β}

/-- Work that fails is over, and otherwise goes on with its result. -/
theorem converses_bind_iff :
    (x >>= k).run.Converses log r ↔
      (∃ e, x.run.Converses log (.error e) ∧ r = .error e) ∨
        ∃ before after a, log = before ++ after ∧ x.run.Converses before (.ok a) ∧
          (k a).run.Converses after r := by
  refine Script.converses_bind_iff (k := ExceptT.bindCont k) |>.trans ?_
  constructor
  · rintro ⟨before, after, e | a, rfl, hbefore, hafter⟩
    · obtain ⟨rfl, rfl⟩ := Script.converses_done_iff.1 hafter
      rw [List.append_nil]
      exact .inl ⟨e, hbefore, rfl⟩
    · exact .inr ⟨before, after, a, rfl, hbefore, hafter⟩
  · rintro (⟨e, hlog, rfl⟩ | ⟨before, after, a, rfl, hbefore, hafter⟩)
    · exact ⟨log, [], .error e, (List.append_nil log).symm, hlog, .done _⟩
    · exact ⟨before, after, .ok a, rfl, hbefore, hafter⟩

theorem converses_pure_iff {a : α} {r : Except ε α} :
    (pure a : Attempt I ε α).run.Converses log r ↔ log = [] ∧ r = .ok a :=
  Script.converses_done_iff

/-- What needs no request is over at once, or goes on. -/
theorem converses_ofExcept_bind_iff {a : Except ε α} :
    ((ExceptT.mk (pure a) : Attempt I ε α) >>= k).run.Converses log r ↔
      (∃ e, a = .error e ∧ log = [] ∧ r = .error e) ∨
        ∃ b, a = .ok b ∧ (k b).run.Converses log r := by
  cases a with
  | error e =>
    refine Script.converses_done_iff.trans ⟨fun h => .inl ⟨e, rfl, h⟩, ?_⟩
    rintro (⟨_, ⟨⟩, h⟩ | ⟨_, ⟨⟩, -⟩)
    exact h
  | ok b =>
    refine ⟨fun h => .inr ⟨b, rfl, h⟩, ?_⟩
    rintro (⟨_, ⟨⟩, -⟩ | ⟨_, ⟨⟩, h⟩)
    exact h

theorem converses_request_bind_iff {q : I.Request} {k : I.Reply q → Attempt I ε β} :
    ((liftM (Script.request q) : Attempt I ε (I.Reply q)) >>= k).run.Converses log r ↔
      ∃ reply rest, log = ⟨q, reply⟩ :: rest ∧ (k reply).run.Converses rest r :=
  Script.converses_ask_iff

end Attempt

/-- Work that may fail, and remembers something in either case. -/
abbrev Deed (I : Interface) (σ ε α : Type) := ExceptT ε (StateT σ (Script I)) α

namespace Deed

variable {I : Interface} {σ ε α β : Type} {x : Deed I σ ε α} {k : α → Deed I σ ε β} {m m' : σ}
  {log : List (Exchange I)} {r : Except ε β}

theorem converses_bind_iff :
    ((x >>= k).run.run m).Converses log (r, m') ↔
      (∃ e, (x.run.run m).Converses log (.error e, m') ∧ r = .error e) ∨
        ∃ before after a m₁, log = before ++ after ∧ (x.run.run m).Converses before (.ok a, m₁) ∧
          ((k a).run.run m₁).Converses after (r, m') := by
  refine Script.converses_bind_iff
    (k := fun p : Except ε α × σ => (ExceptT.bindCont k p.1).run p.2) |>.trans ?_
  constructor
  · rintro ⟨before, after, ⟨e | a, m₁⟩, rfl, hbefore, hafter⟩
    · obtain ⟨rfl, hend⟩ := Script.converses_done_iff.1 hafter
      cases hend
      rw [List.append_nil]
      exact .inl ⟨e, hbefore, rfl⟩
    · exact .inr ⟨before, after, a, m₁, rfl, hbefore, hafter⟩
  · rintro (⟨e, hlog, rfl⟩ | ⟨before, after, a, m₁, rfl, hbefore, hafter⟩)
    · exact ⟨log, [], (.error e, m'), (List.append_nil log).symm, hlog, .done _⟩
    · exact ⟨before, after, (.ok a, m₁), rfl, hbefore, hafter⟩

theorem converses_pure_iff {a : α} {r : Except ε α} :
    ((pure a : Deed I σ ε α).run.run m).Converses log (r, m') ↔
      log = [] ∧ r = .ok a ∧ m' = m := by
  rw [← Prod.mk.injEq]
  exact Script.converses_done_iff

end Deed

end AgentOperator
