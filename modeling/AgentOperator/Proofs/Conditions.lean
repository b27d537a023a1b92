import AgentOperator.Proofs.Gates
import AgentOperator.Proofs.Readings

/-!
AgentOperator.Proofs.Conditions — conditions as a list with an entry for each type, and how
often they are reported.

Setting a condition writes the first entry of its type, or a new one at the end, and tells
whether that was a change (`Agent.setCondition_sets`). The time of an entry is left out of
that comparison. So it does not matter that it is written to the second only, and that every
report is made at another time: once the status that was sent is the agent's, the same
outcome is not sent again (`conditions_keyed_and_status_sent_once`).
-/

namespace AgentOperator

open Kube (Condition)

namespace Agent

variable {now later : Timestamp} {new c : Condition} {cs cs' : List Condition}

/-! ## Setting a condition -/

/-- The types of the conditions in a list. -/
def types (cs : List Condition) : List String := cs.map (·.type)

/-- A list with a condition set: at the end if its type is new, and else in the place of the
first of its type. The time is that of the last change of status. -/
inductive SetAmong (now : Timestamp) (new : Condition) : List Condition → List Condition → Prop
  | added {cs : List Condition} (hnew : new.type ∉ types cs) :
    SetAmong now new cs (cs ++ [{ new with lastTransitionTime := now }])
  | replaced (before after : List Condition) {old c : Condition}
      (hfirst : new.type ∉ types before) (hold : old.type = new.type) (htype : c.type = new.type)
      (hreport : sameReport c new = true)
      (htime : c.lastTransitionTime
        = if old.status = new.status then old.lastTransitionTime else now) :
    SetAmong now new (before ++ old :: after) (before ++ c :: after)

/-- What comes of setting a condition. -/
structure Sets (now : Timestamp) (new : Condition) (cs cs' : List Condition) (changed : Bool) :
    Prop where
  unchanged_iff : changed = false ↔ cs' = cs
  setAmong : SetAmong now new cs cs'
  nodup : (types cs).Nodup → (types cs').Nodup
  again : ∀ later, setCondition later new cs' = (cs', false)

theorem sameReport_iff {a b : Condition} : sameReport a b = true ↔
    a.status = b.status ∧ a.reason = b.reason ∧ a.message = b.message ∧
      a.observedGeneration = b.observedGeneration := by
  simp [sameReport, and_assoc]

theorem sameReport_refreshed (now : Timestamp) (new old : Condition) :
    sameReport (refreshed now new old) new = true := by
  simp [sameReport, refreshed]

/-- A report that is given already is left alone, with its time. -/
theorem refreshed_eq_self_iff (now : Timestamp) (new old : Condition) :
    refreshed now new old = old ↔ sameReport old new = true := by
  constructor
  · intro h
    rw [← h]
    exact sameReport_refreshed now new old
  · intro h
    obtain ⟨hstatus, hreason, hmessage, hgeneration⟩ := sameReport_iff.1 h
    rw [refreshed, if_pos hstatus, ← hstatus, ← hreason, ← hmessage, ← hgeneration]

/-- Conditions of other types may come before. -/
theorem SetAmong.cons (hc : c.type ≠ new.type) (h : SetAmong now new cs cs') :
    SetAmong now new (c :: cs) (c :: cs') := by
  have hnot {before : List Condition} (hbefore : new.type ∉ types before) :
      new.type ∉ types (c :: before) := by
    intro hmem
    rcases List.mem_cons.1 hmem with heq | hmem
    · exact hc heq.symm
    · exact hbefore hmem
  cases h with
  | added hnew => exact .added (hnot hnew)
  | replaced before after hfirst hold htype hreport htime =>
    exact .replaced (c :: before) after (hnot hfirst) hold htype hreport htime

theorem setCondition_setAmong (now : Timestamp) (new : Condition) (cs : List Condition) :
    SetAmong now new cs (setCondition now new cs).1 := by
  induction cs with
  | nil => exact .added List.not_mem_nil
  | cons c cs ih =>
    by_cases hc : c.type = new.type
    · rw [setCondition, if_pos hc]
      exact .replaced [] cs List.not_mem_nil hc hc (sameReport_refreshed now new c) rfl
    · rw [setCondition, if_neg hc]
      exact ih.cons hc

theorem setCondition_unchanged_iff (now : Timestamp) (new : Condition) (cs : List Condition) :
    (setCondition now new cs).2 = false ↔ (setCondition now new cs).1 = cs := by
  induction cs with
  | nil => simp [setCondition]
  | cons c cs ih =>
    by_cases hc : c.type = new.type
    · simp only [setCondition, if_pos hc, Bool.not_eq_false', List.cons.injEq, and_true]
      exact (refreshed_eq_self_iff now new c).symm
    · simpa only [setCondition, if_neg hc, List.cons.injEq, true_and] using ih

/-- Setting a condition changes nothing where the first of its type reports it. -/
theorem unchanged_of_reported (h : findCondition? new.type cs = some c)
    (hreport : sameReport c new = true) : (setCondition now new cs).2 = false := by
  induction cs with
  | nil => cases h
  | cons d cs ih =>
    by_cases hd : d.type = new.type
    · have hfound : findCondition? new.type (d :: cs) = some d :=
        List.find?_cons_of_pos (decide_eq_true hd)
      cases hfound.symm.trans h
      rw [setCondition, if_pos hd, hreport]
      rfl
    · have hrest : findCondition? new.type (d :: cs) = findCondition? new.type cs :=
        List.find?_cons_of_neg (by rw [decide_eq_true_eq]; exact hd)
      rw [setCondition, if_neg hd]
      exact ih (hrest.symm.trans h)

theorem setCondition_again (now later : Timestamp) (new : Condition) (cs : List Condition) :
    setCondition later new (setCondition now new cs).1 = ((setCondition now new cs).1, false) := by
  obtain ⟨c, hfind, hreport⟩ : ∃ c, findCondition? new.type (setCondition now new cs).1 = some c ∧
      sameReport c new = true := findCondition?_setCondition
  have hunchanged : (setCondition later new (setCondition now new cs).1).2 = false :=
    unchanged_of_reported hfind hreport
  exact Prod.ext ((setCondition_unchanged_iff later new _).1 hunchanged) hunchanged

/-- Types that are different stay so. -/
theorem SetAmong.nodup (h : SetAmong now new cs cs') (hnodup : (types cs).Nodup) :
    (types cs').Nodup := by
  cases h with
  | added hnew =>
    simp only [types, List.map_append, List.map_cons, List.map_nil] at hnew hnodup ⊢
    exact (List.perm_append_singleton _ _).nodup_iff.2 (List.nodup_cons.2 ⟨hnew, hnodup⟩)
  | replaced before after hfirst hold htype hreport htime =>
    simpa only [types, List.map_append, List.map_cons, htype, hold] using hnodup

theorem setCondition_sets (now : Timestamp) (new : Condition) (cs : List Condition) :
    Sets now new cs (setCondition now new cs).1 (setCondition now new cs).2 where
  unchanged_iff := setCondition_unchanged_iff now new cs
  setAmong := setCondition_setAmong now new cs
  nodup := (setCondition_setAmong now new cs).nodup
  again later := setCondition_again now later new cs

end Agent

/-! ## Conditions that were stored -/

/-- A list is read back entry by entry. -/
theorem Codec.list_read_back {α : Type} {c : Codec α} {R : α → α → Prop}
    (hc : ∀ x y, c.decode (c.encode x) = .ok y → R x y) {xs ys : List α}
    (h : c.list.decode (c.list.encode xs) = .ok ys) : List.Forall₂ R xs ys := by
  have hall := Except.mapM_eq_ok_iff.1 h
  rw [List.forall₂_map_left_iff] at hall
  exact hall.imp hc

/-- The members of an object are found where they were written. -/
theorem Json.get?_object {ms : List (String × Json)} (hkeys : (ms.map (·.1)).Nodup)
    (name : String) : (Json.object ms).get? name = Entries.find? name ms :=
  Entries.find?_ofList name hkeys

namespace Agent

open Record (defaulted_recalls defaulted_restores map_recalls map_restores mandatory_recalls
  mandatory_restores seq_recalls seq_restores)

/-- Conditions of one type that report the same. -/
def Same (a b : Condition) : Prop := b.type = a.type ∧ sameReport b a = true

/-- What a condition says is read back as it was written. Its time may not be. -/
theorem condition_read_back {c c' : Condition}
    (h : Condition.codec.decode (Condition.codec.encode c) = .ok c') : Same c c' := by
  refine Record.codec_recalls h (by decide) ?_
  iterate 5 refine seq_recalls (Record.Lossless.recalls c) ?_
  refine map_recalls (mandatory_recalls ?_)
  rintro time - message rfl generation rfl reason rfl status rfl type rfl
  exact ⟨rfl, by simp [sameReport]⟩

/-- The members of a status. -/
def statusRecord : Record Status Status :=
  Status.mk <$> .defaulted "observedGeneration" (·.observedGeneration) .int64 0
    <*> .defaulted "conditions" (·.conditions) (.list Condition.codec) []

theorem status_codec : Status.described.codec = statusRecord.positionalCodec := rfl

/-- A status that is read back where another was written. -/
structure ReadBack (s s' : Status) : Prop where
  observedGeneration : s'.observedGeneration = s.observedGeneration
  conditions : List.Forall₂ Same s.conditions s'.conditions

theorem status_read_back {s s' : Status}
    (h : Status.described.codec.decode (Status.described.codec.encode s) = .ok s') :
    ReadBack s s' := by
  rw [status_codec] at h
  refine Record.positionalCodec_recalls h (by decide) ?_
  refine seq_recalls
    (defaulted_recalls fun _ => Codec.list_read_back fun _ _ => condition_read_back) ?_
  refine map_recalls ((Record.Lossless.recalls s).mono ?_)
  rintro generation rfl conditions hconditions
  exact ⟨rfl, hconditions⟩

/-- A condition whose time is known is read back as it is. -/
theorem condition_keeps {c : Condition} (h : c.lastTransitionTime.Known) :
    Condition.codec.Keeps c := by
  refine Record.codec_keeps (by decide) ?_
  show Record.Restores _ c (Condition.mk c.lastTransitionTime c.message c.observedGeneration
    c.reason c.status c.type)
  iterate 5 refine seq_restores ?_ (Record.Lossless.restores_of_eq rfl)
  exact map_restores _ (mandatory_restores (Codec.timestamp_keeps h).decode_encode)

/-- And so is a status with such conditions. -/
theorem status_keeps {s : Status} (h : ∀ c ∈ s.conditions, c.lastTransitionTime.Known) :
    Status.described.codec.Keeps s := by
  rw [status_codec]
  refine Record.positionalCodec_keeps (by decide) ?_
  show statusRecord.Restores s (Status.mk s.observedGeneration s.conditions)
  refine seq_restores (map_restores _ (Record.Lossless.restores_of_eq rfl)) ?_
  exact defaulted_restores (Codec.list_keeps fun c hc => condition_keeps (h c hc)).decode_encode

theorem sameReport_trans {a b c : Condition} (hab : sameReport a b = true)
    (hbc : sameReport b c = true) : sameReport a c = true := by
  rw [sameReport_iff] at hab hbc ⊢
  exact ⟨hab.1.trans hbc.1, hab.2.1.trans hbc.2.1, hab.2.2.1.trans hbc.2.2.1,
    hab.2.2.2.trans hbc.2.2.2⟩

/-- What is found among conditions is found among those that they were read back as. -/
theorem findCondition?_of_same {type : String} (h : List.Forall₂ Same cs cs')
    (hfind : findCondition? type cs = some c) :
    ∃ c', findCondition? type cs' = some c' ∧ Same c c' := by
  induction h with
  | nil => cases hfind
  | @cons x y xs ys hxy _ ih =>
    by_cases hx : x.type = type
    · have hfound : findCondition? type (x :: xs) = some x :=
        List.find?_cons_of_pos (decide_eq_true hx)
      cases hfound.symm.trans hfind
      exact ⟨y, List.find?_cons_of_pos (decide_eq_true (hxy.1.trans hx)), hxy⟩
    · have hrest : findCondition? type (x :: xs) = findCondition? type xs :=
        List.find?_cons_of_neg (by rw [decide_eq_true_eq]; exact hx)
      have hrest' : findCondition? type (y :: ys) = findCondition? type ys :=
        List.find?_cons_of_neg (by rw [decide_eq_true_eq, hxy.1]; exact hx)
      rw [hrest']
      exact ih (hrest.symm.trans hfind)

end Agent

/-! ## Reporting again -/

namespace Controller

open Agent (findCondition? findCondition?_of_same findCondition?_setCondition readyCondition
  sameReport sameReport_trans status_read_back unchanged_of_reported)

variable {a a' : Agent.Resource} {outcome : Except Error Bool} {now later : Timestamp}

/-- The agent's status is the one that a request sends. -/
def HoldsStatusOf (q : Api.Request) (a : Agent.Resource) : Prop :=
  ∃ body sent status, q.body = some body ∧ body.get? "status" = some sent ∧
    Agent.Status.described.codec.decode sent = .ok status ∧ a.status = some status

theorem statusPatch_status (s : Agent.Status) :
    (statusPatch s).get? "status" = some (Agent.Status.described.codec.encode s) := by
  rw [statusPatch, Json.get?_object]
  · rfl
  · show ["apiVersion", "kind", "status"].Nodup
    decide

/-- A status whose times are known can come to be the agent's. -/
theorem holdsStatusOf_request {s : Agent.Status} {q : Api.Request}
    (hrequest : statusRequest a s = .ok q)
    (hknown : ∀ c ∈ s.conditions, c.lastTransitionTime.Known) :
    HoldsStatusOf q { a with status := some s } :=
  ⟨_, _, s, (statusRequest_eq_ok hrequest).2, statusPatch_status s,
    (Agent.status_keeps hknown).decode_encode, rfl⟩

/-- There is no news in an outcome that the status tells already, whenever it did. -/
theorem newStatus?_of_readBack {text : Agent.Outcome} {s s' : Agent.Status}
    (hnew : newStatus? a now text = some s) (hback : Agent.ReadBack s s')
    (hgeneration : a'.metadata.generation = a.metadata.generation)
    (hstatus : a'.status = some s') : newStatus? a' later text = none := by
  let new := readyCondition now a.metadata.generation text
  have hs : s.observedGeneration = a.metadata.generation.getD 0 ∧
      s.conditions = (Agent.setCondition now new (a.status.getD {}).conditions).1 := by
    unfold newStatus? at hnew
    dsimp only at hnew
    split at hnew
    · cases hnew
    · cases hnew
      exact ⟨rfl, rfl⟩
  obtain ⟨c, hfind, hreport⟩ : ∃ c, findCondition? new.type s.conditions = some c ∧
      sameReport c new = true := by
    rw [hs.2]
    exact findCondition?_setCondition
  obtain ⟨c', hfind', hsame⟩ := findCondition?_of_same hback.conditions hfind
  have hreport' := sameReport_trans hsame.2 hreport
  -- The condition of the second report differs from that of the first by its time alone.
  have hunchanged : (Agent.setCondition later
      (readyCondition later a.metadata.generation text) s'.conditions).2 = false := by
    apply unchanged_of_reported
    · exact hfind'
    · exact hreport'
  simp [newStatus?, hstatus, hgeneration, hunchanged, hback.observedGeneration, hs.1]

/-- **Conditions, and how often they are reported.** Setting a condition changes the first
entry of its type or adds one, and tells whether it did. Once the status that was sent for an
outcome is the agent's, nothing is sent for that outcome again while the generation is the
same. -/
theorem conditions_keyed_and_status_sent_once :
    (∀ now new cs, Agent.Sets now new cs (Agent.setCondition now new cs).1
      (Agent.setCondition now new cs).2) ∧
    ∀ (a a' : Agent.Resource) (outcome : Except Error Bool) (m m' m₁ m₁' : Dataplane.Memory)
      (log log' : List (Exchange outside)) (r r' : Except Error Unit) (q : Api.Request)
      (response : Api.Response),
      ((reportStatus a outcome).run.run m).Converses log (r, m') →
      ⟨.api q, response⟩ ∈ log →
      a'.metadata.generation = a.metadata.generation →
      HoldsStatusOf q a' →
      ((reportStatus a' outcome).run.run m₁).Converses log' (r', m₁') →
      (∀ q' response', ⟨.api q', response'⟩ ∉ log') ∧ r' = .ok () := by
  refine ⟨Agent.setCondition_sets, ?_⟩
  intro a a' outcome m m' m₁ m₁' log log' r r' q response hfirst hsent hgeneration hholds hagain
  obtain ⟨-, now, rest, rfl, hreporting⟩ := reporting_of_converses hfirst
  obtain ⟨-, later, rest', rfl, hreporting'⟩ := reporting_of_converses hagain
  obtain ⟨body, sent, s', hbody, hmember, hdecode, hstatus⟩ := hholds
  have hasked := mem_after_now_iff.1 hsent
  -- The first report sent what the agent now has, so the second has nothing to send.
  obtain ⟨s, hnew, rfl⟩ : ∃ s, newStatus? a now (outcome.mapError Error.message) = some s ∧
      body = statusPatch s := by
    cases hreporting with
    | unsent hold => cases hasked
    | unmade hnew hrequest => cases hasked
    | sent hnew hrequest response' =>
      cases List.mem_singleton.1 hasked
      have hsentBody := (statusRequest_eq_ok hrequest).2
      exact ⟨_, hnew, Option.some.inj (hbody.symm.trans hsentBody)⟩
  have hback : Agent.ReadBack s s' := by
    cases (statusPatch_status s).symm.trans hmember
    exact status_read_back hdecode
  have hnone : newStatus? a' later (outcome.mapError Error.message) = none :=
    newStatus?_of_readBack hnew hback hgeneration hstatus
  cases hreporting' with
  | unsent hold =>
    refine ⟨fun q' response' h => ?_, rfl⟩
    cases mem_after_now_iff.1 h
  | unmade hnew' hrequest => cases hnone.symm.trans hnew'
  | sent hnew' hrequest response' => cases hnone.symm.trans hnew'

/-- An agent that has a name and nothing else. -/
def namedAgent : Agent.Resource := { metadata := { name := some "agent" }, spec := default }

/-- Work that asks one thing first goes along with any reply to it. -/
theorem exists_converses_ask {q : Request} (reply : outside.Reply q)
    (k : outside.Reply q → Work Unit) :
    ∃ rest r m, ((Work.ask q >>= k).run.run {}).Converses (⟨q, reply⟩ :: rest) (r, m) := by
  obtain ⟨rest, hrest⟩ :=
    Script.exists_converses (I := outside) World.answer ((k reply).run.run {}) bareWorld
  have hask : ((Work.ask q).run.run {}).Converses [⟨q, reply⟩] (.ok reply, {}) :=
    Work.converses_ask_iff.2 ⟨reply, rfl, rfl, rfl⟩
  exact ⟨rest, _, _, Deed.converses_bind_iff.2 (.inr ⟨_, rest, reply, {}, rfl, hask, hrest⟩)⟩

theorem exists_reported (a : Agent.Resource) (now : Timestamp) (outcome : Except Error Bool) :
    ∃ rest r m, ((reportStatus a outcome).run.run {}).Converses (⟨.now, now⟩ :: rest) (r, m) :=
  exists_converses_ask (q := .now) now _

/-- What is first reported of it. -/
def firstReport : Agent.Status := { conditions := [readyCondition default none (.ok true)] }

theorem exists_statusRequest : ∃ q, statusRequest namedAgent firstReport = .ok q := by
  have hok : (statusRequest namedAgent firstReport).isOk = true := by decide +kernel
  cases hrequest : statusRequest namedAgent firstReport with
  | ok q => exact ⟨q, rfl⟩
  | error f =>
    rw [hrequest] at hok
    cases hok

/-- The first report about an agent is sent, and the second is not. -/
theorem namedAgent_sent_once :
    ∃ a' log log' r r' m m' q response,
      ((reportStatus namedAgent (.ok true)).run.run {}).Converses log (r, m) ∧
      ⟨.api q, response⟩ ∈ log ∧
      a'.metadata.generation = namedAgent.metadata.generation ∧
      HoldsStatusOf q a' ∧
      ((reportStatus a' (.ok true)).run.run {}).Converses log' (r', m') ∧
      (∀ q' response', ⟨.api q', response'⟩ ∉ log') ∧ r' = .ok () := by
  obtain ⟨rest, r, m, hfirst⟩ := exists_reported namedAgent default (.ok true)
  obtain ⟨-, now, rest', hlog, hreporting⟩ := reporting_of_converses hfirst
  cases hlog
  have hnew : newStatus? namedAgent default (.ok true) = some firstReport := rfl
  obtain ⟨q, hrequest⟩ := exists_statusRequest
  have hknown : ∀ c ∈ firstReport.conditions, c.lastTransitionTime.Known := by decide
  obtain ⟨response, hsent⟩ : ∃ response, ⟨.api q, response⟩ ∈ rest := by
    cases hreporting with
    | unsent hold => cases hold.symm.trans hnew
    | unmade hnew' hfailed =>
      cases hnew.symm.trans hnew'
      cases hrequest.symm.trans hfailed
    | sent hnew' hmade response =>
      cases hnew.symm.trans hnew'
      cases hrequest.symm.trans hmade
      exact ⟨response, List.mem_singleton_self _⟩
  let a' : Agent.Resource := { namedAgent with status := some firstReport }
  have hholds : HoldsStatusOf q a' := holdsStatusOf_request hrequest hknown
  obtain ⟨rest', r', m', hagain⟩ := exists_reported a' default (.ok true)
  have hasked : (⟨.api q, response⟩ : Exchange outside) ∈
      ⟨.now, (default : Timestamp)⟩ :: rest := mem_after_now_iff.2 hsent
  exact ⟨a', _, _, r, r', m, m', q, response, hfirst, hasked, rfl, hholds, hagain,
    conditions_keyed_and_status_sent_once.2 namedAgent a' (.ok true) {} m {} m' _ _ r r' q response
      hfirst hasked rfl hholds hagain⟩

end Controller

end AgentOperator
