import AgentOperator.Controller.Outside
import AgentOperator.Proofs.Conversations

/-!
AgentOperator.Proofs.Calls — what is said in a call to the API server.

A call makes one request, or none if the request cannot be made, and what comes of it
is what the response says where it is read as the call reads it (`Api.Asks`). The
controller says the same, with its other requests in between (`converses_ofApi_iff`).
-/

namespace AgentOperator

namespace Api

variable {α : Type} {log : List (Exchange outside)}

/-! ## Requests -/

/-- A request has the method and the body that it is made with. -/
theorem forTarget_eq_ok {method : Method} {target : String} {body : Option Json} {q : Request}
    (h : Request.forTarget method target body = .ok q) : q.method = method ∧ q.body = body := by
  unfold Request.forTarget at h
  dsimp only at h
  repeat' split at h
  all_goals cases h
  all_goals exact ⟨rfl, rfl⟩

/-- A request that cannot be made is no answer of the server. -/
theorem forTarget_eq_error {method : Method} {target : String} {body : Option Json}
    {f : ApiFailure} (h : Request.forTarget method target body = .error f) :
    ∃ reason, f = .unusable reason := by
  unfold Request.forTarget at h
  dsimp only at h
  repeat' split at h
  all_goals cases h
  all_goals exact ⟨_, rfl⟩

namespace Collection

theorem item_bind_eq_error {c : Collection} {name : String} {f : ApiFailure}
    {make : String → Except ApiFailure Request} (h : (c.item name >>= make) = .error f)
    (hmake : ∀ path, make path = .error f → ∃ reason, f = .unusable reason) :
    ∃ reason, f = .unusable reason := by
  unfold item at h
  split at h
  · cases h
    exact ⟨_, rfl⟩
  · exact hmake _ h

/-- The request for the object with a name, if one can be made. -/
def getRequest (c : Collection) (name : String) : Except ApiFailure Request := do
  Request.forTarget .get (← c.item name) none

def listRequest (c : Collection) (query : String) : Except ApiFailure Request :=
  Request.forTarget .get (withQuery c.path query) none

def patchRequest (c : Collection) (name part query : String) (change : Json) :
    Except ApiFailure Request := do
  Request.forTarget .patch (withQuery ((← c.item name) ++ part) query) (some change)

end Collection

/-! ## Responses -/

/-- What a response says, where it is read like this. -/
def Response.readAs (response : Response) (read : Json.Source → Except WireError α) :
    Except ApiFailure α := do
  match read (← response.content) with
  | .ok a => .ok a
  | .error e => .error (.unusable e.message)

/-- What is said in a call, and what comes of it. -/
inductive Asks (request : Except ApiFailure Request) (read : Json.Source → Except WireError α) :
    List (Exchange outside) → Except ApiFailure α → Prop where
  | unmade {f : ApiFailure} (h : request = .error f) : Asks request read [] (.error f)
  | made {q : Request} (h : request = .ok q) (response : Response) :
    Asks request read [⟨q, response⟩] (response.readAs read)

open Call (reading send)

variable {read : Json.Source → Except WireError α} {r : Except ApiFailure α}

theorem asks_of_send {method : Method} {target : String} {body : Option Json}
    (h : (send method target body >>= fun s => reading (read s)).run.Converses log r) :
    Asks (Request.forTarget method target body) read log r := by
  unfold send at h
  rw [bind_assoc] at h
  rcases Attempt.converses_ofExcept_bind_iff.1 h with ⟨f, hf, rfl, rfl⟩ | ⟨q, hq, hsent⟩
  · exact .unmade hf
  rw [bind_assoc] at hsent
  obtain ⟨response, rest, rfl, hanswered⟩ := Attempt.converses_request_bind_iff.1 hsent
  have hanswer : rest = [] ∧ r = response.readAs read := by
    unfold Response.readAs
    rcases Attempt.converses_ofExcept_bind_iff.1 hanswered with ⟨f, hf, rfl, rfl⟩ | ⟨s, hs, hread⟩
    · rw [hf]
      exact ⟨rfl, rfl⟩
    · rw [hs]
      simp only [bind, Except.bind]
      cases hvalue : read s with
      | ok a =>
        rw [hvalue] at hread
        exact Script.converses_done_iff.1 hread
      | error e =>
        rw [hvalue] at hread
        exact Script.converses_done_iff.1 hread
  obtain ⟨rfl, rfl⟩ := hanswer
  exact .made hq response

/-! ## Calls -/

namespace Collection

variable {c : Collection} {name : String}

/-- A name that no object can have is refused before anything is said. -/
theorem asks_of_item {k : String → Call α} {request : String → Except ApiFailure Request}
    (hk : ∀ target, (k target).run.Converses log r → Asks (request target) read log r)
    (h : (c.target name >>= k).run.Converses log r) : Asks (c.item name >>= request) read log r := by
  rcases Attempt.converses_ofExcept_bind_iff.1 h with ⟨f, hf, rfl, rfl⟩ | ⟨target, htarget, hrest⟩
  · rw [hf]
    exact .unmade rfl
  · rw [htarget]
    exact hk target hrest

theorem asks_of_get (h : (c.get read name).run.Converses log r) :
    Asks (c.getRequest name) read log r :=
  asks_of_item (fun _ => asks_of_send) h

theorem asks_of_list {item : Codec α} {query : String} {r : Except ApiFailure (List α)}
    (h : (c.list item query).run.Converses log r) :
    Asks (c.listRequest query) (objectList item).read log r :=
  asks_of_send h

theorem asks_of_patch {part query : String} {change : Json}
    (h : (c.patch read name part query change).run.Converses log r) :
    Asks (c.patchRequest name part query change) read log r :=
  asks_of_item (fun _ => asks_of_send) h

end Collection

end Api

/-! ## Work of the controller -/

namespace Controller

variable {α β : Type} {m m' : Dataplane.Memory} {log : List (Exchange outside)}

/-- What is said to the API server, as the controller says it. -/
def viaApi (e : Exchange Api.outside) : Exchange outside := ⟨.api e.request, e.reply⟩

theorem converses_ofApi_iff {s : Script Api.outside α} {a : α} :
    (ofApi s).Converses log a ↔ ∃ asked, s.Converses asked a ∧ log = asked.map viaApi := by
  induction s generalizing log with
  | done b =>
    refine Script.converses_done_iff.trans ⟨?_, ?_⟩
    · rintro ⟨rfl, rfl⟩
      exact ⟨[], .done _, rfl⟩
    · rintro ⟨asked, hasked, rfl⟩
      obtain ⟨rfl, rfl⟩ := Script.converses_done_iff.1 hasked
      exact ⟨rfl, rfl⟩
  | ask q next ih =>
    refine Script.converses_ask_iff.trans ⟨?_, ?_⟩
    · rintro ⟨reply, rest, rfl, hrest⟩
      obtain ⟨asked, hasked, rfl⟩ := (ih reply).1 hrest
      exact ⟨⟨q, reply⟩ :: asked, .ask hasked, rfl⟩
    · rintro ⟨asked, hasked, rfl⟩
      obtain ⟨reply, rest, rfl, hrest⟩ := Script.converses_ask_iff.1 hasked
      exact ⟨reply, rest.map viaApi, rfl, (ih reply).2 ⟨rest, hrest, rfl⟩⟩

namespace Work

theorem converses_ofScript_iff {s : Script outside (Except Error α)} {r : Except Error α} :
    ((ofScript s).run.run m).Converses log (r, m') ↔ s.Converses log r ∧ m' = m := by
  refine Script.converses_bind_iff.trans ⟨?_, ?_⟩
  · rintro ⟨before, after, r', rfl, hbefore, hafter⟩
    obtain ⟨rfl, heq⟩ := Script.converses_pure_iff.1 hafter
    cases heq
    rw [List.append_nil]
    exact ⟨hbefore, rfl⟩
  · rintro ⟨hlog, rfl⟩
    exact ⟨log, [], r, (List.append_nil log).symm, hlog, .done _⟩

theorem converses_ofExcept_iff {x r : Except Error α} :
    ((ofExcept x).run.run m).Converses log (r, m') ↔ log = [] ∧ r = x ∧ m' = m := by
  unfold ofExcept
  rw [converses_ofScript_iff, Script.converses_pure_iff, and_assoc]

theorem converses_ask_iff {q : Request} {r : Except Error (outside.Reply q)} :
    ((ask q).run.run m).Converses log (r, m') ↔
      ∃ reply, log = [⟨q, reply⟩] ∧ r = .ok reply ∧ m' = m := by
  unfold ask
  rw [converses_ofScript_iff, Script.converses_map_iff]
  constructor
  · rintro ⟨⟨reply, hlog, hr⟩, hm⟩
    exact ⟨reply, Script.converses_request_iff.1 hlog, hr, hm⟩
  · rintro ⟨reply, hlog, hr, hm⟩
    exact ⟨⟨reply, Script.converses_request_iff.2 hlog, hr⟩, hm⟩

theorem converses_throw_iff {e : Error} {r : Except Error α} :
    ((throw e : Work α).run.run m).Converses log (r, m') ↔
      log = [] ∧ r = .error e ∧ m' = m := by
  rw [← Prod.mk.injEq]
  exact Script.converses_done_iff

theorem converses_ofCall {call : Api.Call α} {r : Except Error α}
    (h : ((ofCall call).run.run m).Converses log (r, m')) :
    m' = m ∧ ∃ asked result, call.run.Converses asked result ∧ log = asked.map viaApi ∧
      r = result.mapError fun f => (Fault.api f : Error) := by
  obtain ⟨hcall, rfl⟩ := converses_ofScript_iff.1 h
  obtain ⟨asked, hasked, rfl⟩ := converses_ofApi_iff.1 hcall
  refine ⟨rfl, ?_⟩
  obtain ⟨before, after, result, rfl, hbefore, hafter⟩ := Script.converses_bind_iff.1 hasked
  refine ⟨before, result, hbefore, ?_⟩
  cases result with
  | ok a =>
    obtain ⟨rfl, rfl⟩ := Script.converses_pure_iff.1 hafter
    exact ⟨congrArg _ (List.append_nil before), rfl⟩
  | error f =>
    obtain ⟨rfl, rfl⟩ := Script.converses_pure_iff.1 hafter
    exact ⟨congrArg _ (List.append_nil before), rfl⟩

/-- Failing is one way to come to something. -/
theorem converses_outcome_iff {w : Work α} {r : Except Error (Except Error α)} :
    (w.outcome.run.run m).Converses log (r, m') ↔
      ∃ outcome, (w.run.run m).Converses log (outcome, m') ∧ r = .ok outcome := by
  refine Script.converses_map_iff (f := fun p : Except Error α × Dataplane.Memory =>
    (Except.ok p.1, p.2)) |>.trans ⟨?_, ?_⟩
  · rintro ⟨⟨outcome, m₁⟩, hlog, heq⟩
    cases heq
    exact ⟨outcome, hlog, rfl⟩
  · rintro ⟨outcome, hlog, rfl⟩
    exact ⟨(outcome, m'), hlog, rfl⟩

end Work

end Controller

end AgentOperator
