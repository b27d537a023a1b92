import AgentOperator.Api.Store
import AgentOperator.Proofs.Addresses
import AgentOperator.Proofs.Calls
import AgentOperator.Proofs.Codecs
import Mathlib.Data.List.TakeWhile

/-!
AgentOperator.Proofs.StoreCalls — what is said to the API server in a call to the store.

A call is one request, or none if it cannot be made (`Says`). Reading takes the path from
the template and the key that is asked for, and writing from the object itself; either way
it is the path of the address (`requestOf`, `destinationOf`), unless the namespace or the
name has a character that ends a path early (`addressed_of_plainText`).
-/

namespace AgentOperator.Api

open Kube (Object ObjectKey)

/-! ## Requests -/

/-- The request of a call to the store, if it can be made. -/
def requestOf : Store.Call → Except ApiFailure Request
  | .get template key => (collectionOf template key.namespace).getRequest key.name
  | .create o =>
    Request.forTarget .post (Collection.withQuery (collectionOf o o.key.namespace).path "")
      (some o.encode)
  | .update o => do
    Request.forTarget .put
      (Collection.withQuery (← (collectionOf o o.key.namespace).item o.key.name) "")
      (some o.encode)
  | .delete o => do
    Request.forTarget .delete
      (Collection.withQuery (← (collectionOf o o.key.namespace).item o.key.name) "") none

/-- The address that a call is about. -/
def addressOf : Store.Call → Address
  | .get template key => ⟨template.kind, template.apiVersion, key⟩
  | .create o | .update o | .delete o => ⟨o.kind, o.apiVersion, o.key⟩

def methodOf : Store.Call → Method
  | .get .. => .get
  | .create _ => .post
  | .update _ => .put
  | .delete _ => .delete

/-- The object that a call asks to have stored. -/
def bodyOf : Store.Call → Option Json
  | .create o | .update o => some o.encode
  | _ => none

/-- What is created goes to its collection, and everything else to the path itself. -/
def destinationOf (c : Store.Call) : String :=
  match c with
  | .create _ => (addressOf c).collection.path
  | _ => (addressOf c).path

variable {target : String} {method : Method} {body : Option Json} {q : Request} {f : ApiFailure}
  {c : Store.Call}

theorem forTarget_path (h : Request.forTarget method target body = .ok q) :
    q.path = String.ofList (target.toList.takeWhile fun c => c != '?' && c != '#') := by
  unfold Request.forTarget at h
  rw [List.span_eq_takeWhile_dropWhile] at h
  dsimp only at h
  repeat' split at h
  all_goals cases h
  all_goals rfl

theorem forTarget_path_of_plain (hplain : PlainText target)
    (h : Request.forTarget method target body = .ok q) : q.path = target := by
  rw [forTarget_path h, List.takeWhile_eq_self_iff.2 (List.all_eq_true.1 hplain),
    String.ofList_toList]

theorem forTarget_path_withQuery (hplain : PlainText target) {query : String}
    (h : Request.forTarget method (Collection.withQuery target query) body = .ok q) :
    q.path = target := by
  have htarget : (Collection.withQuery target query).toList
      = target.toList ++ '?' :: query.toList := by
    simp [Collection.withQuery, String.toList_append]
  rw [forTarget_path h, htarget, List.takeWhile_append_of_pos (List.all_eq_true.1 hplain),
    List.takeWhile_cons_of_neg (by decide), List.append_nil, String.ofList_toList]

theorem Collection.item_eq_ok {collection : Collection} {name path : String}
    (h : collection.item name = .ok path) : path = collection.path ++ "/" ++ name := by
  unfold Collection.item at h
  split at h
  · cases h
  · cases h
    rfl

/-- A request that cannot be made is no answer of the server. -/
theorem requestOf_error (h : requestOf c = .error f) : f.code? = none := by
  have hunusable : ∃ reason, f = .unusable reason := by
    cases c with
    | get template key => exact Collection.item_bind_eq_error h fun _ => forTarget_eq_error
    | create o => exact forTarget_eq_error h
    | update o => exact Collection.item_bind_eq_error h fun _ => forTarget_eq_error
    | delete o => exact Collection.item_bind_eq_error h fun _ => forTarget_eq_error
  obtain ⟨reason, rfl⟩ := hunusable
  rfl

/-- A request that is made says what the call is. -/
theorem requestOf_eq_ok (h : requestOf c = .ok q) : q.method = methodOf c ∧ q.body = bodyOf c := by
  cases c with
  | get template key =>
    obtain ⟨path, -, hmade⟩ := Except.bind_eq_ok.1 h
    exact forTarget_eq_ok hmade
  | create o => exact forTarget_eq_ok h
  | update o =>
    obtain ⟨path, -, hmade⟩ := Except.bind_eq_ok.1 h
    exact forTarget_eq_ok hmade
  | delete o =>
    obtain ⟨path, -, hmade⟩ := Except.bind_eq_ok.1 h
    exact forTarget_eq_ok hmade

/-- The request of a call, if one is made, goes to the path that is made from the
address. -/
def Addressed (c : Store.Call) : Prop := ∀ q, requestOf c = .ok q → q.path = destinationOf c

/-- So it is where neither the namespace nor the name could end the path early. -/
theorem addressed_of_plainText (hproper : (addressOf c).Proper)
    (hspace : ∀ space, (addressOf c).key.namespace = some space → PlainText space)
    (hname : PlainText (addressOf c).key.name) : Addressed c := by
  intro q hq
  have hplain := Address.plainText_path hproper hspace hname
  cases c with
  | get template key =>
    obtain ⟨path, hpath, hmade⟩ := Except.bind_eq_ok.1 hq
    obtain rfl := Collection.item_eq_ok hpath
    exact forTarget_path_of_plain hplain hmade
  | create o =>
    have hmade : Request.forTarget .post
        (Collection.withQuery (collectionOf o o.key.namespace).path "") (some o.encode) = .ok q := hq
    exact forTarget_path_withQuery (plainText_append.1 (plainText_append.1 hplain).1).1 hmade
  | update o =>
    obtain ⟨path, hpath, hmade⟩ := Except.bind_eq_ok.1 hq
    obtain rfl := Collection.item_eq_ok hpath
    exact forTarget_path_withQuery hplain hmade
  | delete o =>
    obtain ⟨path, hpath, hmade⟩ := Except.bind_eq_ok.1 hq
    obtain rfl := Collection.item_eq_ok hpath
    exact forTarget_path_withQuery hplain hmade

/-! ## What is said in a call to the store -/

/-- What a call makes of a failure. -/
def failedCall : (c : Store.Call) → ApiFailure → Except Error c.Result
  | .get template key, f =>
    if f.code? = some 404 then .ok none else .error (storeError (.get template key) f)
  | .create o, f => .error (storeError (.create o) f)
  | .update o, f => .error (storeError (.update o) f)
  | .delete o, f => .error (storeError (.delete o) f)

theorem failedCall_of_code_ne (h : f.code? ≠ some 404) :
    failedCall c f = .error (storeError c f) := by
  cases c with
  | get template key => exact if_neg h
  | _ => rfl

theorem failedCall_of_isWrite (h : c.isWrite = true) :
    failedCall c f = .error (storeError c f) := by
  cases c with
  | get template key => cases h
  | _ => rfl

theorem failedCall_get_eq_none_iff {template : Object} {key : ObjectKey} :
    failedCall (.get template key) f = .ok none ↔ f.code? = some 404 := by
  rw [failedCall]
  split
  · exact iff_of_true rfl ‹_›
  · exact iff_of_false nofun ‹_›

/-- What reading makes of the object that is found. -/
def readFound (template : Object) (key : ObjectKey) (s : Json.Source) :
    Except Error (Option Object) :=
  match anyObject s with
  | .ok j => some <$> template.decodeLike j
  | .error e => .error (storeError (.get template key) (.unusable e.message))

/-- What a write makes of an answer that has to be read in some way. -/
def wrote {α : Type} (c : Store.Call) (answer : Except WireError α) : Except Error Unit :=
  match answer with
  | .ok _ => .ok ()
  | .error e => .error (storeError c (.unusable e.message))

/-- What a call makes of an answer that is no failure. -/
def answeredCall : (c : Store.Call) → Json.Source → Except Error c.Result
  | .get template key, s => readFound template key s
  | .create o, s => wrote (.create o) (anyObject s)
  | .update o, s => wrote (.update o) (anyObject s)
  | .delete o, s => wrote (.delete o) (deletionAnswer s)

/-- What a call makes of the response to its request. -/
def answerOf (c : Store.Call) (response : Response) : Except Error c.Result :=
  match response.content with
  | .ok s => answeredCall c s
  | .error f => failedCall c f

variable {log : List (Exchange outside)} {r : Except Error c.Result}

theorem answerOf_ok {response : Response} {s : Json.Source} (h : response.content = .ok s) :
    answerOf c response = answeredCall c s := by
  rw [answerOf, h]

theorem answerOf_error {response : Response} {f : ApiFailure} (h : response.content = .error f) :
    answerOf c response = failedCall c f := by
  rw [answerOf, h]

/-- What is said in a call to the store, and what comes of it. -/
inductive Says (c : Store.Call) : List (Exchange outside) → Except Error c.Result → Prop where
  | unmade {f : ApiFailure} (h : requestOf c = .error f) : Says c [] (failedCall c f)
  | made {q : Request} (h : requestOf c = .ok q) (response : Response) :
    Says c [⟨q, response⟩] (answerOf c response)

/-- From what comes of a call to the server, to what the store makes of it. -/
theorem says_of_asks {α : Type} {read : Json.Source → Except WireError α}
    {result : Except ApiFailure α} {conclude : Except ApiFailure α → Except Error c.Result}
    (h : Asks (requestOf c) read log result)
    (hfailed : ∀ f, conclude (.error f) = failedCall c f)
    (hread : ∀ s a, read s = .ok a → conclude (.ok a) = answeredCall c s)
    (hunread : ∀ s e, read s = .error e →
      conclude (.error (.unusable e.message)) = answeredCall c s) :
    Says c log (conclude result) := by
  cases h with
  | unmade hrequest =>
    rw [hfailed]
    exact .unmade hrequest
  | made hrequest response =>
    have hanswer : conclude (response.readAs read) = answerOf c response := by
      unfold Response.readAs
      cases hcontent : response.content with
      | error f => exact (hfailed f).trans (answerOf_error hcontent).symm
      | ok s =>
        rw [answerOf_ok hcontent]
        simp only [bind, Except.bind]
        cases hvalue : read s with
        | ok a => exact hread s a hvalue
        | error e => exact hunread s e hvalue
    rw [hanswer]
    exact .made hrequest response

/-- What is said in a call to the store that goes on with a call to the server. -/
theorem says_of_call {α : Type} {read : Json.Source → Except WireError α} {call : Call α}
    {next : Except ApiFailure α → Script outside (Except Error c.Result)}
    (conclude : Except ApiFailure α → Except Error c.Result)
    (h : (call.run >>= next).Converses log r)
    (hasks : ∀ {log result}, call.run.Converses log result → Asks (requestOf c) read log result)
    (hnext : ∀ result, next result = pure (conclude result))
    (hfailed : ∀ f, conclude (.error f) = failedCall c f)
    (hread : ∀ s a, read s = .ok a → conclude (.ok a) = answeredCall c s)
    (hunread : ∀ s e, read s = .error e →
      conclude (.error (.unusable e.message)) = answeredCall c s) : Says c log r := by
  obtain ⟨before, after, result, rfl, hbefore, hafter⟩ := Script.converses_bind_iff.1 h
  rw [hnext] at hafter
  obtain ⟨rfl, rfl⟩ := Script.converses_pure_iff.1 hafter
  rw [List.append_nil]
  exact says_of_asks (hasks hbefore) hfailed hread hunread

/-- What is told of a write. -/
def toldOf {α : Type} (c : Store.Call) : Except ApiFailure α → Except Error Unit
  | .ok _ => .ok ()
  | .error f => .error (storeError c f)

theorem toldOf_ok {α : Type} {answer : Except WireError α} {a : α} (h : answer = .ok a) :
    toldOf c (.ok a) = wrote c answer := by
  rw [h]
  rfl

theorem toldOf_unreadable {α : Type} {answer : Except WireError α} {e : WireError}
    (h : answer = .error e) :
    toldOf c (.error (.unusable e.message) : Except ApiFailure α) = wrote c answer := by
  rw [h]
  rfl

/-- What reading makes of what comes of the call to the server. -/
def foundOf (template : Object) (key : ObjectKey) :
    Except ApiFailure Json → Except Error (Option Object)
  | .ok j => some <$> template.decodeLike j
  | .error f => failedCall (.get template key) f

theorem says_of_converses (h : (answerStore c).Converses log r) : Says c log r := by
  cases c with
  | get template key =>
    refine says_of_call (foundOf template key) h Collection.asks_of_get ?_ (fun _ => rfl) ?_ ?_
    · rintro (f | j)
      · simp only [foundOf, failedCall]
        split <;> rfl
      · rfl
    · intro s j hj
      show _ = readFound template key s
      rw [readFound, hj]
      rfl
    · intro s e he
      show _ = readFound template key s
      rw [readFound, he]
      rfl
  | create o =>
    refine says_of_call (toldOf (.create o)) h asks_of_send ?_ (fun _ => rfl)
      (fun _ _ => toldOf_ok) (fun _ _ => toldOf_unreadable)
    rintro (f | j) <;> rfl
  | update o =>
    refine says_of_call (toldOf (.update o)) h (Collection.asks_of_item fun _ => asks_of_send) ?_
      (fun _ => rfl) (fun _ _ => toldOf_ok) (fun _ _ => toldOf_unreadable)
    rintro (f | j) <;> rfl
  | delete o =>
    refine says_of_call (toldOf (.delete o)) h (Collection.asks_of_item fun _ => asks_of_send) ?_
      (fun _ => rfl) (fun _ _ => toldOf_ok) (fun _ _ => toldOf_unreadable)
    rintro (f | j) <;> rfl

end AgentOperator.Api
