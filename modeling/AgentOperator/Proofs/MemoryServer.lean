import AgentOperator.Api.Server
import AgentOperator.Proofs.KeyedStore

/-!
AgentOperator.Proofs.MemoryServer — the server in memory keeps JSON by path.

The server that is a value does with a call to the store what a server is taken to do
(`Server.serves_serve`), unless the path is one that it lists; where it fails at will, it
has to fail with something else than that the path is missing. So what is said when the
store is run against it are dealings with such a server (`Server.deals`).
-/

namespace AgentOperator

theorem Dict.get?_erase {V : Type} (d : Dict V) (k k' : String) :
    (d.erase k).get? k' = if k = k' then none else d.get? k' := by
  refine (Entries.find?_filter (fun name => name != k) k' d.entries).trans ?_
  by_cases h : k = k'
  · simp [h]
  · simp [h, Ne.symm h, Dict.get?]

namespace Script

variable {I : Interface} {α σ : Type}

/-- An outside with a state replies like this, and is then in this state. -/
inductive Answered (answer : (r : I.Request) → StateM σ (I.Reply r)) :
    σ → List (Exchange I) → σ → Prop where
  | nil (w : σ) : Answered answer w [] w
  | cons {w w' : σ} {r : I.Request} {log : List (Exchange I)}
      (rest : Answered answer ((answer r).run w).2 log w') :
    Answered answer w (⟨r, ((answer r).run w).1⟩ :: log) w'

/-- A run against an outside with a state is a conversation with it. -/
theorem exists_converses_answered (answer : (r : I.Request) → StateM σ (I.Reply r))
    (s : Script I α) (w : σ) :
    ∃ log, s.Converses log ((s.run answer).run w).1 ∧
      Answered answer w log ((s.run answer).run w).2 := by
  induction s generalizing w with
  | done a => exact ⟨[], .done a, .nil w⟩
  | ask r next ih =>
    obtain ⟨log, hlog, hanswered⟩ := ih ((answer r).run w).1 ((answer r).run w).2
    exact ⟨_, .ask hlog, .cons hanswered⟩

end Script

namespace Api.Server

variable {c : Store.Call} {q : Request} {s : Server}

/-! ## Paths -/

/-- What the server has at its paths. -/
def paths (s : Server) : Paths := fun path => s.objects.get? path

theorem paths_insert (s : Server) (path : String) (j : Json) :
    paths { s with objects := s.objects.insert path j } = Function.update s.paths path (some j) := by
  funext p
  rw [Function.update_apply]
  refine (Dict.get?_insert s.objects path p j).trans ?_
  simp only [eq_comm, paths]

theorem paths_erase (s : Server) (path : String) :
    paths { s with objects := s.objects.erase path } = Function.update s.paths path none := by
  funext p
  rw [Function.update_apply]
  refine (Dict.get?_erase s.objects path p).trans ?_
  simp only [eq_comm, paths]

theorem paths_of_contains {path : String} (h : s.objects.contains path = true) :
    s.paths path ≠ none :=
  Option.ne_none_iff_isSome.2 h

theorem paths_of_not_contains {path : String} (h : ¬ s.objects.contains path = true) :
    s.paths path = none :=
  Option.not_isSome_iff_eq_none.1 h

/-! ## Requests -/

/-- What a call to the store asks for is done, as long as it does not go to a list. Nothing
is created where something is. -/
theorem serves_serve (hq : requestOf c = .ok q)
    (hsurvives : ∀ o, c = .create o ∨ c = .update o → o.SurvivesWire)
    (hlist : isList q.path = false) :
    Serves (· = none) s.paths q (s.serve q).1 (s.serve q).2.paths := by
  obtain ⟨hmethod, hbody⟩ := requestOf_eq_ok hq
  have hread {o : Kube.Object} (ho : o.SurvivesWire) : ∃ a, anyObject (.value o.encode) = .ok a :=
    ⟨_, Kube.Object.anyObject_encode ho⟩
  unfold serve
  rw [hmethod]
  cases c with
  | get template key =>
    simp only [methodOf, hlist, Bool.false_eq_true, if_false]
    unfold foundAt
    split
    · rename_i j hj
      exact .found hmethod hj rfl
    · rename_i hnone
      exact .failed rfl fun _ => .inr hnone
  | create o =>
    simp only [methodOf, hbody, bodyOf, Option.getD_some]
    split
    · exact .failed rfl fun _ => .inl hmethod
    · rename_i habsent
      rw [paths_insert]
      exact .created hmethod hbody (paths_of_not_contains habsent) rfl (hread (hsurvives o (.inl rfl)))
  | update o =>
    simp only [methodOf, hbody, bodyOf, Option.getD_some]
    split
    · rename_i hthere
      rw [paths_insert]
      exact .replaced hmethod hbody (paths_of_contains hthere) rfl (hread (hsurvives o (.inr rfl)))
    · rename_i habsent
      exact .failed rfl fun _ => .inr (paths_of_not_contains habsent)
  | delete o =>
    simp only [methodOf]
    split
    · rename_i hthere
      rw [paths_erase]
      exact .deleted hmethod (paths_of_contains hthere) rfl ⟨(), by decide⟩
    · rename_i habsent
      exact .failed rfl fun _ => .inr (paths_of_not_contains habsent)

/-- Where the server fails at will, it does not say that a path is missing. -/
def OutagesDiffer (s : Server) : Prop :=
  ∀ o ∈ s.outages, ∃ f, o.response.content = .error f ∧ f.code? ≠ some 404

theorem serves_answer (hq : requestOf c = .ok q)
    (hsurvives : ∀ o, c = .create o ∨ c = .update o → o.SurvivesWire)
    (hlist : isList q.path = false) (houtages : s.OutagesDiffer) :
    Serves (· = none) s.paths q ((answer q).run s).1 ((answer q).run s).2.paths := by
  show Serves (· = none) s.paths q (answer q s).1 (answer q s).2.paths
  unfold answer
  dsimp only
  split
  · rename_i outage hfind
    obtain ⟨f, hf, hcode⟩ := houtages outage (List.mem_of_find?_eq_some hfind)
    exact .failed hf fun h => absurd h hcode
  · exact serves_serve (s := { s with log := s.log ++ [q] }) hq hsurvives hlist

/-- **The server in memory keeps JSON by path.** A call to the store that is run against it
is a dealing with a server that does. -/
theorem deals (s : Server) (hsound : Sound c) (hlist : isList (destinationOf c) = false)
    (houtages : s.OutagesDiffer) :
    ∃ said, Deals (· = none) s.paths ⟨c, said, (((answerStore c).run answer).run s).1⟩
      (((answerStore c).run answer).run s).2.paths := by
  obtain ⟨said, hsaid, hanswered⟩ := Script.exists_converses_answered answer (answerStore c) s
  refine ⟨said, hsaid, ?_⟩
  generalize (((answerStore c).run answer).run s).1 = r at *
  generalize (((answerStore c).run answer).run s).2 = s' at *
  show ServesAll (· = none) s.paths said s'.paths
  cases says_of_converses hsaid with
  | unmade hrequest =>
    cases hanswered
    exact .nil s.paths
  | made hrequest response =>
    cases hanswered with
    | cons rest =>
      cases rest
      rw [← hsound.addressed _ hrequest] at hlist
      exact servesAll_single_iff.2 (serves_answer hrequest hsound.survives hlist houtages)

end Api.Server

end AgentOperator
