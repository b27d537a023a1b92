import AgentOperator.Controller.Reconcile
import AgentOperator.Proofs.Calls
import AgentOperator.Proofs.Codecs

/-!
AgentOperator.Proofs.Reports — what an agent's status says of a reconciliation.

The condition `Ready` is set to what came of the reconciliation, and the status is sent
only if it is not the one that is there. So whether it is sent or not, the status that
the agent is left with tells the outcome (`tells_of_newStatus?`, `tells_of_no_newStatus?`).
-/

namespace AgentOperator

open Kube (Condition)

namespace Agent

variable {now : Timestamp} {new : Condition} {cs : List Condition}

/-- A condition that was set says what it was set to. -/
theorem findCondition?_setCondition :
    ∃ c, findCondition? new.type (setCondition now new cs).1 = some c ∧ sameReport c new = true := by
  induction cs with
  | nil =>
    refine ⟨{ new with lastTransitionTime := now }, ?_, by simp [sameReport]⟩
    simp [setCondition, findCondition?]
  | cons c cs ih =>
    by_cases hc : c.type = new.type
    · refine ⟨refreshed now new c, ?_, by simp [sameReport, refreshed]⟩
      rw [setCondition, if_pos hc, findCondition?]
      exact List.find?_cons_of_pos (decide_eq_true hc)
    · obtain ⟨c', hfind, hsame⟩ := ih
      refine ⟨c', ?_, hsame⟩
      rw [setCondition, if_neg hc, findCondition?]
      exact (List.find?_cons_of_neg (by rw [decide_eq_true_eq]; exact hc)).trans hfind

/-- A condition whose setting changes nothing said so before. -/
theorem findCondition?_of_unchanged (h : (setCondition now new cs).2 = false) :
    ∃ c, findCondition? new.type cs = some c ∧ sameReport c new = true := by
  induction cs with
  | nil => cases h
  | cons c cs ih =>
    by_cases hc : c.type = new.type
    · rw [setCondition, if_pos hc] at h
      exact ⟨c, List.find?_cons_of_pos (decide_eq_true hc), by simpa using h⟩
    · rw [setCondition, if_neg hc] at h
      obtain ⟨c', hfind, hsame⟩ := ih h
      refine ⟨c', ?_, hsame⟩
      exact (List.find?_cons_of_neg (by rw [decide_eq_true_eq]; exact hc)).trans hfind

end Agent

namespace Controller

open Agent (findCondition? readyType readyCondition sameReport)

variable {a : Agent.Resource} {now : Timestamp} {outcome : Except Error Bool}

/-- The condition `Ready` is true if all went well, and otherwise false with the text of
the error. -/
def Tells (outcome : Except Error Bool) (conditions : List Condition) : Prop :=
  ∃ c, findCondition? readyType conditions = some c ∧
    match outcome with
    | .ok _ => c.status = "True"
    | .error e => c.status = "False" ∧ c.message = e.message

theorem tells_of_sameReport {conditions : List Condition} {new : Condition}
    {generation : Option Int64}
    (hnew : new = readyCondition now generation (outcome.mapError Error.message))
    (h : ∃ c, findCondition? new.type conditions = some c ∧ sameReport c new = true) :
    Tells outcome conditions := by
  obtain ⟨c, hfind, hsame⟩ := h
  have htype : new.type = readyType := by
    rw [hnew]
    rcases outcome with e | _ | _ <;> rfl
  refine ⟨c, htype ▸ hfind, ?_⟩
  rw [hnew] at hsame
  simp only [sameReport, Bool.and_eq_true, decide_eq_true_eq] at hsame
  obtain ⟨⟨⟨hstatus, -⟩, hmessage⟩, -⟩ := hsame
  rcases outcome with e | _ | _
  · exact ⟨hstatus, hmessage⟩
  · exact hstatus
  · exact hstatus

/-- A status that is sent tells the outcome. -/
theorem tells_of_newStatus? {status : Agent.Status}
    (h : newStatus? a now (outcome.mapError Error.message) = some status) :
    Tells outcome status.conditions := by
  unfold newStatus? at h
  dsimp only at h
  split at h
  · cases h
  · cases h
    exact tells_of_sameReport rfl Agent.findCondition?_setCondition

/-- A status that is not sent is there already. -/
theorem tells_of_no_newStatus? (h : newStatus? a now (outcome.mapError Error.message) = none) :
    Tells outcome (a.status.getD {}).conditions := by
  unfold newStatus? at h
  dsimp only at h
  split at h
  · rename_i hold
    rw [Bool.and_eq_true, Bool.not_eq_true'] at hold
    exact tells_of_sameReport rfl (Agent.findCondition?_of_unchanged hold.1)
  · cases h

/-! ## Reporting -/

/-- The request that sends a status. -/
def statusRequest (a : Agent.Resource) (status : Agent.Status) : Except ApiFailure Api.Request :=
  agents.patchRequest a.name "/status" ("fieldManager=" ++ fieldManager ++ "&force=true")
    (statusPatch status)

theorem statusRequest_eq_ok {status : Agent.Status} {q : Api.Request}
    (h : statusRequest a status = .ok q) :
    q.method = .patch ∧ q.body = some (statusPatch status) := by
  obtain ⟨target, -, htarget⟩ := Except.bind_eq_ok.1 h
  exact Api.forTarget_eq_ok htarget

/-- What is said about an outcome at some time, and what comes of it. -/
inductive Reporting (a : Agent.Resource) (outcome : Except Error Bool) (now : Timestamp) :
    List (Exchange outside) → Except Error Unit → Prop where
  | unsent (hold : newStatus? a now (outcome.mapError Error.message) = none) :
    Reporting a outcome now [] (.ok ())
  | unmade {status : Agent.Status} {f : ApiFailure}
      (hnew : newStatus? a now (outcome.mapError Error.message) = some status)
      (hrequest : statusRequest a status = .error f) :
    Reporting a outcome now [] (.error (Fault.api f : Fault))
  | sent {status : Agent.Status} {q : Api.Request}
      (hnew : newStatus? a now (outcome.mapError Error.message) = some status)
      (hrequest : statusRequest a status = .ok q) (response : Api.Response) :
    Reporting a outcome now [⟨.api q, response⟩]
      (match response.readAs Agent.Resource.codec.read with
        | .ok _ => .ok ()
        | .error f => .error (Fault.api f : Fault))

section

variable {log : List (Exchange outside)} {r : Except Error Unit}

/-- Whatever is sent tells the outcome. -/
theorem Reporting.told (h : Reporting a outcome now log r) {q : Api.Request}
    {response : Api.Response} (hsaid : ⟨.api q, response⟩ ∈ log) :
    ∃ status, statusRequest a status = .ok q ∧ q.method = .patch ∧
      q.body = some (statusPatch status) ∧ Tells outcome status.conditions := by
  cases h with
  | unsent hold => cases hsaid
  | unmade hnew hrequest => cases hsaid
  | sent hnew hrequest response' =>
    cases List.mem_singleton.1 hsaid
    obtain ⟨hmethod, hbody⟩ := statusRequest_eq_ok hrequest
    exact ⟨_, hrequest, hmethod, hbody, tells_of_newStatus? hnew⟩

/-- If nothing is sent, the outcome is told already or cannot be. -/
theorem Reporting.silent (h : Reporting a outcome now log r)
    (hsilent : ∀ q response, ⟨.api q, response⟩ ∉ log) :
    Tells outcome (a.status.getD {}).conditions ∨ ∃ status f, statusRequest a status = .error f := by
  cases h with
  | unsent hold => exact .inl (tells_of_no_newStatus? hold)
  | unmade hnew hrequest => exact .inr ⟨_, _, hrequest⟩
  | sent hnew hrequest response => exact absurd (.head _) (hsilent _ response)

/-- Reporting fails only where the status cannot be sent. -/
theorem Reporting.result (h : Reporting a outcome now log r) : r = .ok () ∨
    ∃ f, r = .error (Fault.api f : Fault) ∧
      ((∃ status, statusRequest a status = .error f) ∨
        ∃ q response, ⟨.api q, response⟩ ∈ log ∧
          response.readAs Agent.Resource.codec.read = .error f) := by
  cases h with
  | unsent hold => exact .inl rfl
  | unmade hnew hrequest => exact .inr ⟨_, rfl, .inl ⟨_, hrequest⟩⟩
  | sent hnew hrequest response =>
    cases hanswer : response.readAs Agent.Resource.codec.read with
    | ok b => exact .inl rfl
    | error f => exact .inr ⟨f, rfl, .inr ⟨_, response, .head _, hanswer⟩⟩

end

/-- Asking for the time is not asking the API server. -/
theorem mem_after_now_iff {rest : List (Exchange outside)} {q : Api.Request}
    {response : Api.Response} :
    (⟨.api q, response⟩ : Exchange outside) ∈ ⟨.now, now⟩ :: rest ↔
      ⟨.api q, response⟩ ∈ rest := by
  rw [List.mem_cons]
  exact or_iff_right nofun

theorem reporting_of_converses {m m' : Dataplane.Memory} {log : List (Exchange outside)}
    {r : Except Error Unit} (h : ((reportStatus a outcome).run.run m).Converses log (r, m')) :
    m' = m ∧ ∃ now rest, log = ⟨.now, now⟩ :: rest ∧ Reporting a outcome now rest r := by
  unfold reportStatus at h
  rcases Deed.converses_bind_iff.1 h with ⟨e, hfailed, -⟩ | ⟨before, rest, now, m₁, rfl, hnow, hrest⟩
  · obtain ⟨reply, -, hreply, -⟩ := Work.converses_ask_iff.1 hfailed
    cases hreply
  obtain ⟨now, rfl, heq, rfl⟩ := Work.converses_ask_iff.1 hnow
  cases heq
  cases hnew : newStatus? a now (outcome.mapError Error.message) with
  | none =>
    simp only [hnew] at hrest
    obtain ⟨rfl, rfl, rfl⟩ := Deed.converses_pure_iff.1 hrest
    exact ⟨rfl, now, [], rfl, .unsent hnew⟩
  | some status =>
    simp only [hnew] at hrest
    have hsent : ∃ result, ((Work.ofCall (agents.patch Agent.Resource.codec.read a.name "/status"
        ("fieldManager=" ++ fieldManager ++ "&force=true") (statusPatch status))).run.run m₁).Converses
          rest (result, m') ∧ r = (fun _ => ()) <$> result := by
      rcases Deed.converses_bind_iff.1 hrest with ⟨e, hfailed, rfl⟩ |
        ⟨before, after, b, m₂, rfl, hcall, hend⟩
      · exact ⟨.error e, hfailed, rfl⟩
      · obtain ⟨rfl, rfl, rfl⟩ := Deed.converses_pure_iff.1 hend
        rw [List.append_nil]
        exact ⟨.ok b, hcall, rfl⟩
    obtain ⟨result, hcall, rfl⟩ := hsent
    obtain ⟨rfl, asked, answer, hasked, rfl, rfl⟩ := Work.converses_ofCall hcall
    refine ⟨rfl, now, _, rfl, ?_⟩
    cases Api.Collection.asks_of_patch hasked with
    | unmade hrequest => exact .unmade hnew hrequest
    | made hrequest response =>
      have hresult := Reporting.sent hnew hrequest response
      cases hanswer : response.readAs Agent.Resource.codec.read with
      | ok b =>
        rw [hanswer] at hresult
        exact hresult
      | error f =>
        rw [hanswer] at hresult
        exact hresult

end Controller

end AgentOperator
