import AgentOperator.Proofs.StoreCalls
import AgentOperator.Proofs.Untyped
import Mathlib.Logic.Function.Basic

/-!
AgentOperator.Proofs.KeyedStore — the API server as a store is a map from addresses.

The server is taken to keep JSON by path: it answers that a path is missing only if it
is, it may answer anything with another failure, and otherwise it does what the request
asks for (`Serves`). Through it, every sequence of calls to the store is one on a map
from addresses (`Session.run`), since what is at the paths and what is at the addresses
stay the same (`Tracks`) from one call to the next (`Deals.answers`). From the map alone it
then follows that an object is read back as it was written (`Shelf.Run.readsBack`).
-/

namespace AgentOperator.Api

open Kube (Kind Object ObjectKey ownKey)

variable {c : Store.Call} {log : List (Exchange outside)} {r : Except Error c.Result}

/-! ## The server -/

/-- What a server has at its paths. -/
abbrev Paths := String → Option Json

/-- The path at which a collection has an object: that of the name it gives itself. -/
def pathIn (collection : String) (j : Json) : String := collection ++ "/" ++ (ownKey j).name

/-- The server answers a request, and then has something else at its paths. That a path is
missing is said only if it is; any other failure may be answered, and leaves everything as
it was. What may stand where an object is created is for the server to say. -/
inductive Serves (admits : Option Json → Prop) (P : Paths) (q : Request) (response : Response) :
    Paths → Prop where
  | failed {f : ApiFailure} (h : response.content = .error f)
      (hmissing : f.code? = some 404 → q.method = .post ∨ P q.path = none) :
    Serves admits P q response P
  | found {j : Json} (hmethod : q.method = .get) (hstored : P q.path = some j)
      (h : response.content = .ok (.value j)) : Serves admits P q response P
  | created {j : Json} {s : Json.Source} (hmethod : q.method = .post) (hbody : q.body = some j)
      (hadmits : admits (P (pathIn q.path j))) (h : response.content = .ok s)
      (hread : ∃ a, anyObject s = .ok a) :
    Serves admits P q response (Function.update P (pathIn q.path j) (some j))
  | replaced {j : Json} {s : Json.Source} (hmethod : q.method = .put) (hbody : q.body = some j)
      (hstored : P q.path ≠ none) (h : response.content = .ok s)
      (hread : ∃ a, anyObject s = .ok a) :
    Serves admits P q response (Function.update P q.path (some j))
  | deleted {s : Json.Source} (hmethod : q.method = .delete) (hstored : P q.path ≠ none)
      (h : response.content = .ok s) (hread : ∃ a, deletionAnswer s = .ok a) :
    Serves admits P q response (Function.update P q.path none)

/-- The server answers one request after the other. -/
inductive ServesAll (admits : Option Json → Prop) :
    Paths → List (Exchange outside) → Paths → Prop where
  | nil (P : Paths) : ServesAll admits P [] P
  | cons {P P₁ P' : Paths} {q : Request} {response : Response} {log : List (Exchange outside)}
      (h : Serves admits P q response P₁) (rest : ServesAll admits P₁ log P') :
    ServesAll admits P (⟨q, response⟩ :: log) P'

theorem servesAll_single_iff {admits : Option Json → Prop} {P P' : Paths} {q : Request}
    {response : Response} :
    ServesAll admits P [⟨q, response⟩] P' ↔ Serves admits P q response P' := by
  constructor
  · rintro (_ | ⟨h, ⟨⟩⟩)
    exact h
  · exact fun h => .cons h (.nil P')

/-! ## The map -/

/-- What a map has at its addresses. -/
abbrev Shelf := Address → Option Json

/-- A map answers a call to the store, and is then another one. It may fail any call, by
an error that names the call and changes nothing; that something is missing is then said
only of a write to where nothing is, or of creating. -/
inductive Shelf.Answers (admits : Option Json → Prop) (m : Shelf) :
    (c : Store.Call) → Except Error c.Result → Shelf → Prop where
  | absent {template : Object} {key : ObjectKey} (h : m (addressOf (.get template key)) = none) :
    Answers admits m (.get template key) (.ok none) m
  | found {template : Object} {key : ObjectKey} {j : Json}
      (h : m (addressOf (.get template key)) = some j) :
    Answers admits m (.get template key) (readFound template key (.value j)) m
  | created {o : Object} (h : admits (m (addressOf (.create o)))) :
    Answers admits m (.create o) (.ok ()) (Function.update m (addressOf (.create o)) (some o.encode))
  | updated {o : Object} (h : m (addressOf (.update o)) ≠ none) :
    Answers admits m (.update o) (.ok ()) (Function.update m (addressOf (.update o)) (some o.encode))
  | deleted {o : Object} (h : m (addressOf (.delete o)) ≠ none) :
    Answers admits m (.delete o) (.ok ()) (Function.update m (addressOf (.delete o)) none)
  | failed {c : Store.Call} {f : ApiFailure}
      (h : f.code? = some 404 →
        (∃ o, c = .create o) ∨ (c.isWrite = true ∧ m (addressOf c) = none)) :
    Answers admits m c (.error (storeError c f)) m

/-! ## One call -/

/-- A call on an object with a name, whose namespace is one part of a path: it is addressed
at its path, and what it asks to have stored survives the wire. -/
structure Sound (c : Store.Call) : Prop where
  name_ne : (addressOf c).key.name ≠ ""
  slashless : ∀ space, (addressOf c).key.namespace = some space → '/' ∉ space.toList
  addressed : Addressed c
  survives : ∀ o, c = .create o ∨ c = .update o → o.SurvivesWire

/-- Whatever a call is about, there are such objects. -/
theorem served_addressOf (c : Store.Call) :
    ∃ o : Object, o.kind = (addressOf c).kind ∧ o.apiVersion = (addressOf c).apiVersion := by
  cases c with
  | get template key => exact ⟨template, rfl, rfl⟩
  | create o => exact ⟨o, rfl, rfl⟩
  | update o => exact ⟨o, rfl, rfl⟩
  | delete o => exact ⟨o, rfl, rfl⟩

theorem Sound.proper (h : Sound c) : (addressOf c).Proper :=
  ⟨served_addressOf c, h.name_ne, h.slashless⟩

/-- What is stored on creating goes to the address of the object. -/
theorem Sound.pathIn {o : Object} (h : Sound (.create o)) :
    pathIn (destinationOf (.create o)) o.encode = (addressOf (.create o)).path := by
  rw [Api.pathIn, (h.survives o (.inl rfl)).ownKey_encode]
  rfl

/-- The map has at the addresses what the server has at their paths. -/
def Tracks (m : Shelf) (P : Paths) : Prop := ∀ a : Address, a.Proper → m a = P a.path

variable {admits : Option Json → Prop} {m m' : Shelf} {P P' : Paths} {q : Request}
  {response : Response} {f : ApiFailure}

/-- Writing at an address is writing at its path. -/
theorem Tracks.update (h : Tracks m P) {a : Address} (ha : a.Proper) (v : Option Json) :
    Tracks (Function.update m a v) (Function.update P a.path v) := by
  intro b hb
  by_cases heq : b = a
  · subst heq
    rw [Function.update_self, Function.update_self]
  · have hpath : b.path ≠ a.path := fun hpath => heq (Address.path_injective hb ha hpath)
    rw [Function.update_of_ne heq, Function.update_of_ne hpath]
    exact h b hb

/-- A failure changes nothing in either. -/
theorem answers_failedCall (htracks : Tracks m P) (hproper : (addressOf c).Proper)
    (hmissing : f.code? = some 404 → methodOf c = .post ∨ P (destinationOf c) = none) :
    m.Answers admits c (failedCall c f) m := by
  by_cases hcode : f.code? = some 404
  · have habsent (hpath : destinationOf c = (addressOf c).path) (hpost : methodOf c ≠ .post) :
        m (addressOf c) = none := by
      rw [htracks _ hproper, ← hpath]
      exact (hmissing hcode).resolve_left hpost
    cases c with
    | get template key =>
      rw [failedCall_get_eq_none_iff.2 hcode]
      exact .absent (habsent rfl nofun)
    | create o => exact .failed fun _ => .inl ⟨o, rfl⟩
    | update o => exact .failed fun _ => .inr ⟨rfl, habsent rfl nofun⟩
    | delete o => exact .failed fun _ => .inr ⟨rfl, habsent rfl nofun⟩
  · rw [failedCall_of_code_ne hcode]
    exact .failed fun h => absurd h hcode

/-- **One call.** What the server makes of the request of a call, the map makes of the
call. -/
theorem answers_of_serves (hserves : Serves admits P q response P') (hq : requestOf c = .ok q)
    (hsound : Sound c) (htracks : Tracks m P) :
    ∃ m', m.Answers admits c (answerOf c response) m' ∧ Tracks m' P' := by
  obtain ⟨hmethod, hbody⟩ := requestOf_eq_ok hq
  have hpath := hsound.addressed q hq
  have hproper := hsound.proper
  have hat : m (addressOf c) = P (addressOf c).path := htracks _ hproper
  -- Below, the method of the request leaves one call that it can be of.
  cases hserves with
  | failed h hmissing =>
    rw [answerOf_error h]
    rw [hmethod, hpath] at hmissing
    exact ⟨m, answers_failedCall htracks hproper hmissing, htracks⟩
  | found hget hstored h =>
    rw [answerOf_ok h]
    cases c <;> cases hmethod.symm.trans hget
    case get.refl template key =>
      rw [hpath] at hstored
      exact ⟨m, .found (hat.trans hstored), htracks⟩
  | created hpost hj hadmits h hread =>
    rw [answerOf_ok h]
    cases c <;> cases hmethod.symm.trans hpost
    case create.refl o =>
      cases hbody.symm.trans hj
      rw [hpath, hsound.pathIn] at hadmits ⊢
      obtain ⟨a, ha⟩ := hread
      refine ⟨_, ?_, htracks.update hproper (some o.encode)⟩
      rw [answeredCall, ha]
      exact .created (hat ▸ hadmits)
  | replaced hput hj hstored h hread =>
    rw [answerOf_ok h]
    cases c <;> cases hmethod.symm.trans hput
    case update.refl o =>
      cases hbody.symm.trans hj
      rw [hpath] at hstored ⊢
      obtain ⟨a, ha⟩ := hread
      refine ⟨_, ?_, htracks.update hproper (some o.encode)⟩
      rw [answeredCall, ha]
      exact .updated (hat ▸ hstored)
  | deleted hdelete hstored h hread =>
    rw [answerOf_ok h]
    cases c <;> cases hmethod.symm.trans hdelete
    case delete.refl o =>
      rw [hpath] at hstored ⊢
      obtain ⟨a, ha⟩ := hread
      refine ⟨_, ?_, htracks.update hproper none⟩
      rw [answeredCall, ha]
      exact .deleted (hat ▸ hstored)

/-! ## Sequences of calls -/

/-- A call to the store, what was said to the server, and what came of it. -/
structure Dealing where
  call : Store.Call
  said : List (Exchange outside)
  result : Except Error call.Result

/-- A call to the store that a server answers. -/
structure Deals (admits : Option Json → Prop) (P : Paths) (d : Dealing) (P' : Paths) : Prop where
  converses : (answerStore d.call).Converses d.said d.result
  served : ServesAll admits P d.said P'

/-- Calls to the store, one after the other. -/
inductive Session (admits : Option Json → Prop) : Paths → List Dealing → Paths → Prop where
  | nil (P : Paths) : Session admits P [] P
  | cons {P P₁ P' : Paths} {d : Dealing} {ds : List Dealing} (h : Deals admits P d P₁)
      (rest : Session admits P₁ ds P') : Session admits P (d :: ds) P'

/-- A map that answers the calls, one after the other. -/
inductive Shelf.Run (admits : Option Json → Prop) : Shelf → List Dealing → Shelf → Prop where
  | nil (m : Shelf) : Run admits m [] m
  | cons {m m₁ m' : Shelf} {d : Dealing} {ds : List Dealing}
      (h : m.Answers admits d.call d.result m₁) (rest : Run admits m₁ ds m') :
    Run admits m (d :: ds) m'

/-- What comes of one call through the server comes of it on the map. -/
theorem Deals.answers {d : Dealing} (h : Deals admits P d P') (hsound : Sound d.call)
    (htracks : Tracks m P) : ∃ m', m.Answers admits d.call d.result m' ∧ Tracks m' P' := by
  obtain ⟨hsaid, hserved⟩ := h
  revert hserved
  generalize d.said = log at *
  generalize d.result = r at *
  intro hserved
  cases says_of_converses hsaid with
  | unmade hrequest =>
    cases hserved
    refine ⟨m, answers_failedCall htracks hsound.proper fun hcode => ?_, htracks⟩
    cases (requestOf_error hrequest).symm.trans hcode
  | made hrequest response =>
    exact answers_of_serves (servesAll_single_iff.1 hserved) hrequest hsound htracks

/-- A sequence of calls through the server is one on the map. -/
theorem Session.run {ds : List Dealing} (h : Session admits P ds P')
    (hsound : ∀ d ∈ ds, Sound d.call) (htracks : Tracks m P) :
    ∃ m', Shelf.Run admits m ds m' ∧ Tracks m' P' := by
  induction h generalizing m with
  | nil P => exact ⟨m, .nil m, htracks⟩
  | cons hdeals _ ih =>
    obtain ⟨m₁, hanswers, htracks₁⟩ := hdeals.answers (hsound _ (.head _)) htracks
    obtain ⟨m', hrun, htracks'⟩ := ih (fun d hd => hsound d (.tail _ hd)) htracks₁
    exact ⟨m', .cons hanswers hrun, htracks'⟩

/-! ## Failures -/

/-- How failures are told. Reading finds nothing exactly if the server says that the path
is missing; every other failure of the server, and of making a request, is an error that
names the call; and after an error the server has what it had. -/
structure TellsFailures (P : Paths) (d : Dealing) (P' : Paths) : Prop where
  none_iff : ∀ {template : Object} {key : ObjectKey} {said : List (Exchange outside)}
    {r : Except Error (Option Object)}, d = ⟨.get template key, said, r⟩ →
    (r = .ok none ↔ ∃ q response f, said = [⟨q, response⟩] ∧
      Response.content response = .error f ∧ f.code? = some 404)
  failed : ∀ {q : Request} {response : Response} {f : ApiFailure}, d.said = [⟨q, response⟩] →
    response.content = .error f → (d.call.isWrite = true ∨ f.code? ≠ some 404) →
    d.result = .error (storeError d.call f)
  unmade : d.said = [] → ∃ f, requestOf d.call = .error f ∧ d.result = .error (storeError d.call f)
  unchanged : ∀ {e : Error}, d.result = .error e → P' = P

theorem readFound_ne_none {template : Object} {key : ObjectKey} {s : Json.Source} :
    readFound template key s ≠ .ok none := by
  intro h
  unfold readFound at h
  split at h
  · obtain ⟨o, -, ho⟩ := Except.map_eq_ok.1 h
    cases ho
  · cases h

/-- If the server has something else after a request, then the call succeeds. -/
theorem unchanged_or_succeeds (hserves : Serves admits P q response P')
    (hq : requestOf c = .ok q) : P' = P ∨ ∃ u, answerOf c response = .ok u := by
  obtain ⟨hmethod, -⟩ := requestOf_eq_ok hq
  cases hserves with
  | failed _ _ => exact .inl rfl
  | found _ _ _ => exact .inl rfl
  | created hpost _ _ h hread =>
    obtain ⟨a, ha⟩ := hread
    cases c <;> cases hmethod.symm.trans hpost
    rw [answerOf_ok h, answeredCall, ha]
    exact .inr ⟨(), rfl⟩
  | replaced hput _ _ h hread =>
    obtain ⟨a, ha⟩ := hread
    cases c <;> cases hmethod.symm.trans hput
    rw [answerOf_ok h, answeredCall, ha]
    exact .inr ⟨(), rfl⟩
  | deleted hdelete _ h hread =>
    obtain ⟨a, ha⟩ := hread
    cases c <;> cases hmethod.symm.trans hdelete
    rw [answerOf_ok h, answeredCall, ha]
    exact .inr ⟨(), rfl⟩

theorem Deals.tellsFailures {d : Dealing} (h : Deals admits P d P') : TellsFailures P d P' := by
  obtain ⟨call, said, result⟩ := d
  obtain ⟨hsaid, hserved⟩ := h
  have hsays : Says call said result := says_of_converses hsaid
  cases hsays with
  | @unmade f hrequest =>
    cases hserved
    have hcode : f.code? ≠ some 404 := by
      rw [requestOf_error hrequest]
      nofun
    refine ⟨?_, nofun, fun _ => ⟨f, hrequest, failedCall_of_code_ne hcode⟩, fun _ => rfl⟩
    rintro template key said r heq
    cases heq
    refine iff_of_false (fun h => hcode (failedCall_get_eq_none_iff.1 h)) ?_
    rintro ⟨_, _, _, ⟨⟩, -⟩
  | @made q hrequest response =>
    have hserves := servesAll_single_iff.1 hserved
    refine ⟨?_, ?_, nofun, ?_⟩
    · rintro template key said r heq
      cases heq
      show answerOf _ response = _ ↔ _
      cases hcontent : response.content with
      | error f =>
        rw [answerOf_error hcontent]
        refine failedCall_get_eq_none_iff.trans
          ⟨fun hcode => ⟨q, response, f, rfl, hcontent, hcode⟩, ?_⟩
        rintro ⟨_, _, _, ⟨⟩, hf, hcode⟩
        cases hcontent.symm.trans hf
        exact hcode
      | ok s =>
        rw [answerOf_ok hcontent]
        refine iff_of_false readFound_ne_none ?_
        rintro ⟨_, _, _, ⟨⟩, hf, -⟩
        cases hcontent.symm.trans hf
    · rintro q' response' f hlog hf hcode
      cases hlog
      show answerOf call response = _
      rw [answerOf_error hf]
      exact hcode.elim failedCall_of_isWrite failedCall_of_code_ne
    · intro e he
      rcases unchanged_or_succeeds hserves hrequest with hsame | ⟨u, hu⟩
      · exact hsame
      · cases hu.symm.trans he

/-! ## Reading back -/

namespace Shelf

variable {a : Address} {o template : Object} {key : ObjectKey} {ds es : List Dealing}

/-- A call that does not succeed in writing at an address leaves what is there. -/
theorem Answers.at_eq (h : m.Answers admits c r m')
    (hleft : c.isWrite = true → addressOf c = a → ∃ e, r = .error e) : m' a = m a := by
  cases h with
  | absent h => rfl
  | found h => rfl
  | failed h => rfl
  | _ =>
    refine Function.update_of_ne (fun heq => ?_) _ _
    obtain ⟨e, he⟩ := hleft rfl heq.symm
    cases he

/-- Writing that succeeds leaves the object as it is written. -/
theorem Answers.at_written (h : m.Answers admits c r m') (hwrite : c = .create o ∨ c = .update o)
    (hok : ∃ u, r = .ok u) : m' (addressOf c) = some o.encode := by
  obtain ⟨u, rfl⟩ := hok
  rcases hwrite with rfl | rfl
  · cases h
    exact Function.update_self ..
  · cases h
    exact Function.update_self ..

/-- What is there is read back as it was written, if it is read at all. -/
theorem Answers.read_back {r : Except Error (Option Object)}
    (h : m.Answers admits (.get template key) r m') (hsurvives : o.SurvivesWire)
    (haddress : addressOf (.get template key) = addressOf (.create o))
    (hthere : m (addressOf (.create o)) = some o.encode) :
    r = .ok (some o) ∨
      ∃ f, f.code? ≠ some 404 ∧ r = .error (storeError (.get template key) f) := by
  cases h with
  | absent h =>
    rw [haddress, hthere] at h
    cases h
  | @found _ _ j h =>
    rw [haddress, hthere] at h
    cases h
    refine .inl ?_
    have hdecode : template.decodeLike o.encode = .ok o :=
      (Object.decodeLike_congr (congrArg Address.kind haddress)
        (congrArg Address.apiVersion haddress) _).trans hsurvives
    rw [readFound, Object.anyObject_encode hsurvives]
    show some <$> template.decodeLike o.encode = _
    rw [hdecode]
    rfl
  | @failed _ f h =>
    refine .inr ⟨f, fun hcode => ?_, rfl⟩
    rcases h hcode with ⟨_, ⟨⟩⟩ | ⟨hwrite, -⟩
    cases hwrite

theorem Run.split (h : Run admits m (ds ++ es) m') :
    ∃ m₁, Run admits m ds m₁ ∧ Run admits m₁ es m' := by
  induction ds generalizing m with
  | nil => exact ⟨m, .nil m, h⟩
  | cons d ds ih =>
    cases h with
    | cons hanswers rest =>
      obtain ⟨m₁, hds, hes⟩ := ih rest
      exact ⟨m₁, .cons hanswers hds, hes⟩

theorem Run.at_eq (h : Run admits m ds m')
    (hleft : ∀ d ∈ ds, d.call.isWrite = true → addressOf d.call = a → ∃ e, d.result = .error e) :
    m' a = m a := by
  induction h with
  | nil m => rfl
  | cons hanswers _ ih =>
    exact (ih fun d hd => hleft d (.tail _ hd)).trans (hanswers.at_eq (hleft _ (.head _)))

/-- An object that was written is read back as it was, or reading fails, as long as nothing
else is written at its address; and what fails is not that it is missing. -/
def ReadsBack (ds : List Dealing) : Prop :=
  ∀ (before between after : List Dealing) (w : Dealing) (o template : Object) (key : ObjectKey)
    (said : List (Exchange outside)) (r : Except Error (Option Object)),
    ds = before ++ w :: (between ++ ⟨.get template key, said, r⟩ :: after) →
    (w.call = .create o ∨ w.call = .update o) → (∃ u, w.result = .ok u) →
    (∀ d ∈ between, d.call.isWrite = true → addressOf d.call = addressOf w.call →
      ∃ e, d.result = .error e) →
    addressOf (.get template key) = addressOf w.call →
    r = .ok (some o) ∨ ∃ f, f.code? ≠ some 404 ∧ r = .error (storeError (.get template key) f)

theorem Run.readsBack (h : Run admits m ds m') (hsound : ∀ d ∈ ds, Sound d.call) :
    ReadsBack ds := by
  rintro before between after w o template key said r rfl hwrite hok hleft haddress
  obtain ⟨m₁, -, hwritten⟩ := h.split
  cases hwritten with
  | @cons _ m₂ _ _ _ hw hrest =>
    obtain ⟨m₃, hbetween, hget⟩ := hrest.split
    cases hget with
    | cons hread _ =>
      have haddress' : addressOf w.call = addressOf (.create o) := by
        rcases hwrite with hcall | hcall
        · rw [hcall]
        · rw [hcall]
          rfl
      have hthere : m₃ (addressOf (.create o)) = some o.encode := by
        rw [← haddress', hbetween.at_eq hleft]
        exact hw.at_written hwrite hok
      have hsurvives : o.SurvivesWire :=
        (hsound w (List.mem_append_right _ (.head _))).survives o hwrite
      exact hread.read_back hsurvives (haddress.trans haddress') hthere

end Shelf

/-! ## The store -/

/-- **The API server as a store is a map from addresses.** No two addresses have one path.
Through a server that keeps JSON by path, every sequence of calls to the store is one on the
map that has at each address what the server has at its path; failures are told call by
call; and what was written is read back. -/
theorem store_is_keyed_map {ds : List Dealing} (h : Session admits P ds P')
    (hsound : ∀ d ∈ ds, Sound d.call) :
    (∀ a b : Address, a.Proper → b.Proper → a.path = b.path → a = b) ∧
    (∃ m' : Shelf, Shelf.Run admits (fun a => P a.path) ds m' ∧
      ∀ a : Address, a.Proper → m' a = P' a.path) ∧
    (∀ (Q Q' : Paths) (d : Dealing), Deals admits Q d Q' → TellsFailures Q d Q') ∧
    Shelf.ReadsBack ds := by
  obtain ⟨m', hrun, htracks⟩ := h.run hsound (m := fun a => P a.path) fun a _ => rfl
  exact ⟨fun a b => Address.path_injective, ⟨m', hrun, htracks⟩,
    fun Q Q' d hdeals => hdeals.tellsFailures, hrun.readsBack hsound⟩

/-! ### A config map comes and goes -/

def settings : Object :=
  .configMap { metadata := { name := some "settings", «namespace» := some "agents" } }

/-- The path of the config map. -/
def settingsPath : String := "/api/v1/namespaces/agents/configmaps/settings"

/-- The config map is created, read, not updated because of a conflict, deleted, and not
found. -/
def settingsDealings : List Dealing :=
  [⟨.create settings, [⟨⟨.post, "/api/v1/namespaces/agents/configmaps", [], some settings.encode⟩,
      ⟨201, some (.value settings.encode)⟩⟩], .ok ()⟩,
    ⟨.get settings settings.key, [⟨⟨.get, settingsPath, [], none⟩,
      ⟨200, some (.value settings.encode)⟩⟩], .ok (some settings)⟩,
    ⟨.update settings, [⟨⟨.put, settingsPath, [], some settings.encode⟩, ⟨409, none⟩⟩],
      .error (storeError (.update settings)
        (.status 409 "Failed to parse error data" "no report"))⟩,
    ⟨.delete settings, [⟨⟨.delete, settingsPath, [], none⟩,
      ⟨200, some (.value settings.encode)⟩⟩], .ok ()⟩,
    ⟨.get settings settings.key, [⟨⟨.get, settingsPath, [], none⟩, ⟨404, none⟩⟩], .ok none⟩]

theorem settings_survivesWire : settings.SurvivesWire := rfl

/-- Nothing but the config map. -/
def onlySettings : Paths := Function.update (fun _ => none) settingsPath (some settings.encode)

/-- A server that has nothing at first, and creates only what is not there, may answer so. -/
theorem session_settings : Session (· = none) (fun _ => none) settingsDealings
    (Function.update onlySettings settingsPath none) := by
  have hread : ∃ a, anyObject (.value settings.encode) = .ok a :=
    ⟨_, Object.anyObject_encode settings_survivesWire⟩
  have hdeleted : ∃ a, deletionAnswer (.value settings.encode) = .ok a := ⟨(), by decide⟩
  have hthere : onlySettings settingsPath = some settings.encode := Function.update_self ..
  have hgone : Function.update onlySettings settingsPath none settingsPath = none :=
    Function.update_self ..
  have hstored : onlySettings settingsPath ≠ none := hthere ▸ nofun
  refine .cons ⟨.ask (.done _), .cons (.created rfl rfl rfl rfl hread) (.nil onlySettings)⟩ ?_
  refine .cons ⟨.ask (.done _), .cons (.found rfl hthere rfl) (.nil _)⟩ ?_
  refine .cons ⟨.ask (.done _), .cons (.failed rfl nofun) (.nil _)⟩ ?_
  refine .cons ⟨.ask (.done _), .cons (.deleted rfl hstored rfl hdeleted) (.nil _)⟩ ?_
  exact .cons ⟨.ask (.done _), .cons (.failed rfl fun _ => .inr hgone) (.nil _)⟩ (.nil _)

theorem sound_settings : ∀ d ∈ settingsDealings, Sound d.call := by
  have hsound (c : Store.Call) (haddress : addressOf c = addressOf (.create settings))
      (hwritten : ∀ o, c = .create o ∨ c = .update o → o = settings) : Sound c := by
    have hname : (addressOf c).key.name = "settings" := congrArg (·.key.name) haddress
    have hspace (space : String) (h : (addressOf c).key.namespace = some space) :
        space = "agents" := by
      rw [haddress] at h
      cases h
      rfl
    have hproper : (addressOf c).Proper := by
      refine ⟨served_addressOf c, ?_, fun space h => ?_⟩
      · rw [hname]
        decide
      · rw [hspace space h]
        decide
    refine ⟨hproper.name_ne, hproper.slashless, ?_, fun o ho => hwritten o ho ▸ settings_survivesWire⟩
    refine addressed_of_plainText hproper (fun space h => ?_) ?_
    · rw [hspace space h]
      rfl
    · rw [hname]
      rfl
  intro d hd
  simp only [settingsDealings, List.mem_cons, List.not_mem_nil, or_false] at hd
  rcases hd with rfl | rfl | rfl | rfl | rfl
  all_goals
    refine hsound _ rfl ?_
    rintro o (h | h) <;> cases h <;> rfl

theorem store_is_keyed_map_settings :
    Session (· = none) (fun _ => none) settingsDealings
      (Function.update onlySettings settingsPath none) ∧
    (∀ d ∈ settingsDealings, Sound d.call) ∧
    ∃ m' : Shelf, Shelf.Run (· = none) (fun _ => none) settingsDealings m' ∧
      ∀ a : Address, a.Proper → m' a = none := by
  obtain ⟨-, ⟨m', hrun, htracks⟩, -⟩ := store_is_keyed_map session_settings sound_settings
  refine ⟨session_settings, sound_settings, m', hrun, fun a ha => (htracks a ha).trans ?_⟩
  rw [onlySettings, Function.update_idem, Function.update_eq_self_iff.2 rfl]

end AgentOperator.Api
