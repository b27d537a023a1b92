import AgentOperator.Controller.World
import AgentOperator.Proofs.Reports
import AgentOperator.Proofs.Schedule

/-!
AgentOperator.Proofs.Gates — what stands before the first write, and what is reported.

Applying an agent goes through a row of gates, and only behind the last of them is
anything written (`Course`). So while one of them is closed, nothing is (`Course.gated`).
What comes of it is what the pass comes to, or the reason why a gate is closed; it is
told in the agent's status, and it is the result unless the status cannot be sent
(`applyAndReport_gated_and_truthful`).

Nothing is assumed of the API server and of the gateway here. Certificates come from a
directory, which matters only to when a failed reconciliation is tried again.
-/

namespace AgentOperator

open Kube (ObjectMeta Secret)

/-- Whether the API server is asked for more than to be read. -/
def Exchange.changes (e : Exchange Controller.outside) : Bool :=
  match e.request with
  | .api q => q.method != .get
  | _ => false

namespace Controller

variable {a : Agent.Resource} {spec : Agent.Spec} {m m' : Dataplane.Memory}
  {log : List (Exchange outside)}

/-! ## Gates -/

def agentsRequest : Except ApiFailure Api.Request := agents.listRequest ""

def secretRequest (spec : Agent.Spec) : Except ApiFailure Api.Request :=
  ({ apiVersion := "v1", plural := "secrets", space := some spec.namespace } :
    Api.Collection).getRequest spec.accessTokenSecretName

/-- What the counting of the agents comes to. -/
inductive CountOf : Except ApiFailure (List ObjectMeta) → Except Error Unit → Prop where
  | single {found : List ObjectMeta} (h : found.length ≤ 1) : CountOf (.ok found) (.ok ())
  | crowded {found : List ObjectMeta} (h : 1 < found.length) (message : String) :
    CountOf (.ok found) (.error (.invalidArgument message))
  | failed (f : ApiFailure) : CountOf (.error f) (.error (Fault.api f : Fault))

/-- What is said when the agents are counted. -/
def Counts (log : List (Exchange outside)) (r : Except Error Unit) : Prop :=
  ∃ asked result, Api.Asks agentsRequest (Api.objectList Api.metadataOnly).read asked result ∧
    log = asked.map viaApi ∧ CountOf result r

/-- What the reading of the token's secret comes to. -/
inductive TokenOf : Except ApiFailure Secret → Except Error String → Prop where
  | found (secret : Secret) : TokenOf (.ok secret) (tokenIn secret)
  | missing (code : Nat) (message : String) {e : Error}
      (h : e.requeue = some missingTokenRequeue) :
    TokenOf (.error (.status code "NotFound" message)) (.error e)
  | failed {f : ApiFailure} (h : ∀ code message, f ≠ .status code "NotFound" message) :
    TokenOf (.error f) (.error (Fault.api f : Fault))

/-- What is said when the token is read. -/
def ReadsToken (spec : Agent.Spec) (log : List (Exchange outside)) (r : Except Error String) :
    Prop :=
  ∃ asked result, Api.Asks (secretRequest spec) Secret.codec.read asked result ∧
    log = asked.map viaApi ∧ TokenOf result r

/-- What is said when the credentials are fetched. -/
inductive Fetches (spec : Agent.Spec) (token : String) :
    List (Exchange outside) → Except Error RegistryCredentials → Prop where
  | unasked {e : Error} (h : Gateway.Request.forCredentials spec token = .error e) :
    Fetches spec token [] (.error e)
  | asked {q : Gateway.Request} (h : Gateway.Request.forCredentials spec token = .ok q)
      (reply : Gateway.Reply) : Fetches spec token [⟨.gateway q, reply⟩] reply.credentials

theorem counts_of_converses {r : Except Error Unit}
    (h : (checkSingleAgent.run.run m).Converses log (r, m')) : m' = m ∧ Counts log r := by
  unfold checkSingleAgent at h
  rcases Deed.converses_bind_iff.1 h with ⟨e, hfailed, rfl⟩ |
    ⟨before, after, found, m₁, rfl, hlist, hcheck⟩
  · obtain ⟨rfl, asked, result, hasked, rfl, hresult⟩ := Work.converses_ofCall hfailed
    refine ⟨rfl, asked, result, Api.Collection.asks_of_list hasked, rfl, ?_⟩
    cases result with
    | ok a => cases hresult
    | error f =>
      cases hresult
      exact .failed f
  · obtain ⟨rfl, asked, result, hasked, rfl, hresult⟩ := Work.converses_ofCall hlist
    have hfound : result = .ok found := by
      cases result with
      | ok a =>
        cases hresult
        rfl
      | error f => cases hresult
    have hrest : after = [] ∧ m' = m₁ ∧ CountOf result r := by
      rw [hfound]
      split at hcheck
      · obtain ⟨rfl, rfl, rfl⟩ := Work.converses_throw_iff.1 hcheck
        exact ⟨rfl, rfl, .crowded ‹_› _⟩
      · obtain ⟨rfl, rfl, rfl⟩ := Deed.converses_pure_iff.1 hcheck
        exact ⟨rfl, rfl, .single (Nat.le_of_not_lt ‹_›)⟩
    obtain ⟨rfl, rfl, hcount⟩ := hrest
    rw [List.append_nil]
    exact ⟨rfl, asked, result, Api.Collection.asks_of_list hasked, rfl, hcount⟩

theorem readsToken_of_converses {r : Except Error String}
    (h : ((readAccessToken spec).run.run m).Converses log (r, m')) :
    m' = m ∧ ReadsToken spec log r := by
  unfold readAccessToken at h
  rcases Deed.converses_bind_iff.1 h with ⟨e, hfailed, -⟩ |
    ⟨before, after, result, m₁, rfl, hread, htoken⟩
  · obtain ⟨hsaid, -⟩ := Work.converses_ofScript_iff.1 hfailed
    obtain ⟨_, -, heq⟩ := Script.converses_map_iff.1 hsaid
    cases heq
  · obtain ⟨hsaid, rfl⟩ := Work.converses_ofScript_iff.1 hread
    obtain ⟨_, hcall, heq⟩ := Script.converses_map_iff.1 hsaid
    cases heq
    obtain ⟨asked, hasked, rfl⟩ := converses_ofApi_iff.1 hcall
    have hrest : after = [] ∧ m' = m₁ ∧ TokenOf result r := by
      split at htoken
      · obtain ⟨rfl, rfl, rfl⟩ := Work.converses_ofExcept_iff.1 htoken
        exact ⟨rfl, rfl, .found _⟩
      · obtain ⟨rfl, rfl, rfl⟩ := Work.converses_throw_iff.1 htoken
        exact ⟨rfl, rfl, .missing _ _ rfl⟩
      · rename_i f hother
        obtain ⟨rfl, rfl, rfl⟩ := Work.converses_throw_iff.1 htoken
        exact ⟨rfl, rfl, .failed hother⟩
    obtain ⟨rfl, rfl, htokenOf⟩ := hrest
    rw [List.append_nil]
    exact ⟨rfl, asked, result, Api.Collection.asks_of_get hasked, rfl, htokenOf⟩

theorem fetches_of_converses {token : String} {r : Except Error RegistryCredentials}
    (h : ((fetchCredentials spec token).run.run m).Converses log (r, m')) :
    m' = m ∧ Fetches spec token log r := by
  unfold fetchCredentials at h
  rcases Deed.converses_bind_iff.1 h with ⟨e, hrefused, rfl⟩ |
    ⟨before, after, q, m₁, rfl, hrequest, hfetch⟩
  · obtain ⟨rfl, heq, rfl⟩ := Work.converses_ofExcept_iff.1 hrefused
    exact ⟨rfl, .unasked heq.symm⟩
  obtain ⟨rfl, heq, rfl⟩ := Work.converses_ofExcept_iff.1 hrequest
  rcases Deed.converses_bind_iff.1 hfetch with ⟨e, hfailed, -⟩ |
    ⟨before, after, reply, m₂, rfl, hasked, hread⟩
  · obtain ⟨reply, -, hreply, -⟩ := Work.converses_ask_iff.1 hfailed
    cases hreply
  obtain ⟨_, rfl, hreply, rfl⟩ := Work.converses_ask_iff.1 hasked
  cases hreply
  obtain ⟨rfl, rfl, rfl⟩ := Work.converses_ofExcept_iff.1 hread
  exact ⟨rfl, .asked heq.symm reply⟩

/-! ## Application -/

/-- How applying an agent goes: as far as the first gate that is closed, or through all of
them and on with the pass, which then decides the outcome. -/
inductive Course (a : Agent.Resource) (spec : Agent.Spec) (m : Dataplane.Memory) :
    List (Exchange outside) → Except Error Bool → Prop where
  | invalid {e : Error} (hspec : spec.validate = .error e) : Course a spec m [] (.error e)
  | uncounted {listing : List (Exchange outside)} {e : Error} (hspec : spec.validate = .ok ())
      (hlist : Counts listing (.error e)) : Course a spec m listing (.error e)
  | tokenless {listing reading : List (Exchange outside)} {e : Error}
      (hspec : spec.validate = .ok ()) (hlist : Counts listing (.ok ()))
      (hread : ReadsToken spec reading (.error e)) : Course a spec m (listing ++ reading) (.error e)
  | refused {listing reading fetching : List (Exchange outside)} {token : String} {e : Error}
      (hspec : spec.validate = .ok ()) (hlist : Counts listing (.ok ()))
      (hread : ReadsToken spec reading (.ok token))
      (hfetch : Fetches spec token fetching (.error e)) :
    Course a spec m (listing ++ (reading ++ fetching)) (.error e)
  | ownerless {listing reading fetching : List (Exchange outside)} {token : String}
      {credentials : RegistryCredentials} {e : Error}
      (hspec : spec.validate = .ok ()) (hlist : Counts listing (.ok ()))
      (hread : ReadsToken spec reading (.ok token))
      (hfetch : Fetches spec token fetching (.ok credentials))
      (howner : ownerSetter a spec = .error e) :
    Course a spec m (listing ++ (reading ++ fetching)) (.error e)
  | passed {listing reading fetching pass : List (Exchange outside)} {token : String}
      {credentials : RegistryCredentials} {setOwner : Dataplane.OwnerSetter}
      {outcome : Except Error Bool} {m' : Dataplane.Memory}
      (hspec : spec.validate = .ok ()) (hlist : Counts listing (.ok ()))
      (hread : ReadsToken spec reading (.ok token))
      (hfetch : Fetches spec token fetching (.ok credentials))
      (howner : ownerSetter a spec = .ok setOwner)
      (hpass : ((Work.ofPass (Dataplane.applyDesiredState spec credentials
        (some setOwner))).run.run m).Converses pass (outcome, m')) :
    Course a spec m (listing ++ (reading ++ (fetching ++ pass))) outcome

theorem course_of_converses {outcome : Except Error Bool}
    (h : ((applyAgent a spec).run.run m).Converses log (outcome, m')) :
    Course a spec m log outcome := by
  unfold applyAgent at h
  rcases Deed.converses_bind_iff.1 h with ⟨e, hstop, rfl⟩ | ⟨_, log, _, m₀, rfl, hdone, hnext⟩
  · obtain ⟨rfl, heq, -⟩ := Work.converses_ofExcept_iff.1 hstop
    exact .invalid heq.symm
  obtain ⟨rfl, hspec, rfl⟩ := Work.converses_ofExcept_iff.1 hdone
  rw [List.nil_append]
  rcases Deed.converses_bind_iff.1 hnext with ⟨e, hstop, rfl⟩ |
    ⟨listing, log, _, m₁, rfl, hdone₁, hnext₁⟩
  · exact .uncounted hspec.symm (counts_of_converses hstop).2
  obtain ⟨rfl, hlist⟩ := counts_of_converses hdone₁
  rcases Deed.converses_bind_iff.1 hnext₁ with ⟨e, hstop, rfl⟩ |
    ⟨reading, log, token, m₂, rfl, hdone₂, hnext₂⟩
  · exact .tokenless hspec.symm hlist (readsToken_of_converses hstop).2
  obtain ⟨rfl, hread⟩ := readsToken_of_converses hdone₂
  rcases Deed.converses_bind_iff.1 hnext₂ with ⟨e, hstop, rfl⟩ |
    ⟨fetching, log, credentials, m₃, rfl, hdone₃, hnext₃⟩
  · exact .refused hspec.symm hlist hread (fetches_of_converses hstop).2
  obtain ⟨rfl, hfetch⟩ := fetches_of_converses hdone₃
  rcases Deed.converses_bind_iff.1 hnext₃ with ⟨e, hstop, rfl⟩ |
    ⟨_, log, setOwner, m₄, rfl, hdone₄, hpass⟩
  · obtain ⟨rfl, howner, -⟩ := Work.converses_ofExcept_iff.1 hstop
    rw [List.append_nil]
    exact .ownerless hspec.symm hlist hread hfetch howner.symm
  obtain ⟨rfl, howner, rfl⟩ := Work.converses_ofExcept_iff.1 hdone₄
  exact .passed hspec.symm hlist hread hfetch howner.symm hpass

/-! ## Open gates -/

/-- The agents that the first response lists. -/
def AgentsFound (log : List (Exchange outside)) (found : List ObjectMeta) : Prop :=
  ∃ q response rest, log = ⟨.api q, response⟩ :: rest ∧ agentsRequest = .ok q ∧
    response.readAs (Api.objectList Api.metadataOnly).read = .ok found

/-- What the second response says of the token's secret. -/
def SecretRead (spec : Agent.Spec) (log : List (Exchange outside)) (r : Except ApiFailure Secret) :
    Prop :=
  ∃ first q response rest, log = first :: ⟨.api q, response⟩ :: rest ∧ secretRequest spec = .ok q ∧
    response.readAs Secret.codec.read = r

def SecretMissing (spec : Agent.Spec) (log : List (Exchange outside)) : Prop :=
  ∃ code message, SecretRead spec log (.error (.status code "NotFound" message))

/-- What the gateway is asked and answers, third. -/
def GatewayAnswered (log : List (Exchange outside)) (q : Gateway.Request) (reply : Gateway.Reply) :
    Prop :=
  ∃ first second rest, log = first :: second :: ⟨.gateway q, reply⟩ :: rest

/-- All gates are open. -/
structure Cleared (a : Agent.Resource) (spec : Agent.Spec) (log : List (Exchange outside)) :
    Prop where
  valid : spec.validate = .ok ()
  /-- There are not two agents. -/
  single : ∃ found, AgentsFound log found ∧ found.length ≤ 1
  /-- There is a secret with a token that is not empty, the gateway can be asked with the
  token, and it answers with credentials. -/
  admitted : ∃ secret token q reply credentials, SecretRead spec log (.ok secret) ∧
    secret.data.bind (·.get? accessTokenKey) = some token ∧ Utf8.decodeLossy token ≠ "" ∧
    Gateway.Request.forCredentials spec (Utf8.decodeLossy token) = .ok q ∧
    GatewayAnswered log q reply ∧ reply.credentials = .ok credentials
  known : ∃ uid, a.metadata.uid = some uid

theorem tokenIn_eq_ok {secret : Secret} {token : String} (h : tokenIn secret = .ok token) :
    ∃ bytes, secret.data.bind (·.get? accessTokenKey) = some bytes ∧ Utf8.decodeLossy bytes = token ∧
      token ≠ "" := by
  unfold tokenIn at h
  dsimp only at h
  split at h
  · rename_i t ht
    cases h
    rw [Option.filter_eq_some_iff, Option.map_eq_some_iff, decide_eq_true_eq] at ht
    obtain ⟨⟨bytes, hbytes, htoken⟩, hne⟩ := ht
    exact ⟨bytes, hbytes, htoken, hne⟩
  · cases h

theorem uid_of_ownerSetter {setOwner : Dataplane.OwnerSetter} (h : ownerSetter a spec = .ok setOwner) :
    ∃ uid, a.metadata.uid = some uid := by
  unfold ownerSetter at h
  split at h
  · cases h
  · rename_i owner howner
    obtain ⟨name, -, howner⟩ := Option.bind_eq_some_iff.1 howner
    obtain ⟨uid, huid, -⟩ := Option.bind_eq_some_iff.1 howner
    exact ⟨uid, huid⟩

/-! ### What is said at the gates -/

theorem Counts.eq_singleton (h : Counts log (.ok ())) :
    ∃ q response found, log = [⟨.api q, response⟩] ∧ agentsRequest = .ok q ∧
      response.readAs (Api.objectList Api.metadataOnly).read = .ok found ∧ found.length ≤ 1 := by
  obtain ⟨asked, result, hasked, rfl, hcount⟩ := h
  cases hcount with
  | @single found hsingle =>
    generalize hr : (Except.ok found : Except ApiFailure (List ObjectMeta)) = r at hasked
    cases hasked with
    | unmade hq => cases hr
    | made hq response => exact ⟨_, response, found, rfl, hq, hr.symm, hsingle⟩

theorem ReadsToken.eq_singleton {token : String} (h : ReadsToken spec log (.ok token)) :
    ∃ q response secret, log = [⟨.api q, response⟩] ∧ secretRequest spec = .ok q ∧
      response.readAs Secret.codec.read = .ok secret ∧ tokenIn secret = .ok token := by
  obtain ⟨asked, result, hasked, rfl, htoken⟩ := h
  have hfound : ∃ secret, result = .ok secret ∧ tokenIn secret = .ok token := by
    generalize hr : (Except.ok token : Except Error String) = r at htoken
    cases htoken with
    | found secret => exact ⟨secret, rfl, rfl⟩
    | missing code message h => cases hr
    | failed h => cases hr
  obtain ⟨secret, rfl, hsecret⟩ := hfound
  generalize hr : (Except.ok secret : Except ApiFailure Secret) = r at hasked
  cases hasked with
  | unmade hq => cases hr
  | made hq response => exact ⟨_, response, secret, rfl, hq, hr.symm, hsecret⟩

theorem Fetches.eq_singleton {token : String} {credentials : RegistryCredentials}
    (h : Fetches spec token log (.ok credentials)) :
    ∃ q reply, log = [⟨.gateway q, reply⟩] ∧ Gateway.Request.forCredentials spec token = .ok q ∧
      Gateway.Reply.credentials reply = .ok credentials := by
  generalize hr : (Except.ok credentials : Except Error RegistryCredentials) = r at h
  cases h with
  | unasked h => cases hr
  | asked hq reply => exact ⟨_, reply, rfl, hq, rfl⟩

theorem changes_of_asks {α : Type} {request : Except ApiFailure Api.Request}
    {read : Json.Source → Except WireError α} {asked : List (Exchange Api.outside)}
    {r : Except ApiFailure α} (hget : ∀ q, request = .ok q → q.method = .get)
    (h : Api.Asks request read asked r) : ∀ e ∈ asked.map viaApi, e.changes = false := by
  intro e he
  cases h with
  | unmade hq => cases he
  | made hq response =>
    cases List.mem_singleton.1 he
    exact bne_eq_false_iff_eq.2 (hget _ hq)

theorem Counts.changes {r : Except Error Unit} (h : Counts log r) :
    ∀ e ∈ log, e.changes = false := by
  obtain ⟨asked, result, hasked, rfl, -⟩ := h
  refine changes_of_asks (fun q hq => ?_) hasked
  unfold agentsRequest Api.Collection.listRequest at hq
  exact (Api.forTarget_eq_ok hq).1

theorem ReadsToken.changes {r : Except Error String} (h : ReadsToken spec log r) :
    ∀ e ∈ log, e.changes = false := by
  obtain ⟨asked, result, hasked, rfl, -⟩ := h
  refine changes_of_asks (fun q hq => ?_) hasked
  obtain ⟨target, -, htarget⟩ := Except.bind_eq_ok.1 hq
  exact (Api.forTarget_eq_ok htarget).1

theorem Fetches.changes {token : String} {r : Except Error RegistryCredentials}
    (h : Fetches spec token log r) : ∀ e ∈ log, e.changes = false := by
  intro e he
  cases h with
  | unasked h => cases he
  | asked hq reply =>
    cases List.mem_singleton.1 he
    rfl

/-- **Nothing is written while a gate is closed.** -/
theorem Course.gated {outcome : Except Error Bool} (h : Course a spec m log outcome)
    (hchanges : ∃ e ∈ log, e.changes = true) : Cleared a spec log := by
  have hclosed {said : List (Exchange outside)} (hsaid : ∀ e ∈ said, e.changes = false)
      (hchanges : ∃ e ∈ said, e.changes = true) : False := by
    obtain ⟨e, he, hchange⟩ := hchanges
    rw [hsaid e he] at hchange
    cases hchange
  have happend {before after : List (Exchange outside)} (hbefore : ∀ e ∈ before, e.changes = false)
      (hafter : ∀ e ∈ after, e.changes = false) : ∀ e ∈ before ++ after, e.changes = false :=
    List.forall_mem_append.2 ⟨hbefore, hafter⟩
  cases h with
  | invalid hspec => exact (hclosed (List.forall_mem_nil _) hchanges).elim
  | uncounted hspec hlist => exact (hclosed hlist.changes hchanges).elim
  | tokenless hspec hlist hread =>
    exact (hclosed (happend hlist.changes hread.changes) hchanges).elim
  | refused hspec hlist hread hfetch =>
    exact (hclosed (happend hlist.changes (happend hread.changes hfetch.changes)) hchanges).elim
  | ownerless hspec hlist hread hfetch howner =>
    exact (hclosed (happend hlist.changes (happend hread.changes hfetch.changes)) hchanges).elim
  | passed hspec hlist hread hfetch howner hpass =>
    obtain ⟨q₁, r₁, found, rfl, hq₁, hfound, hsingle⟩ := hlist.eq_singleton
    obtain ⟨q₂, r₂, secret, rfl, hq₂, hsecret, htoken⟩ := hread.eq_singleton
    obtain ⟨q₃, reply, rfl, hrequest, hcredentials⟩ := hfetch.eq_singleton
    obtain ⟨token, hbytes, rfl, hne⟩ := tokenIn_eq_ok htoken
    exact {
      valid := hspec
      single := ⟨found, ⟨q₁, r₁, _, rfl, hq₁, hfound⟩, hsingle⟩
      admitted := ⟨secret, token, q₃, reply, _, ⟨_, q₂, r₂, _, rfl, hq₂, hsecret⟩, hbytes, hne,
        hrequest, ⟨_, _, _, rfl⟩, hcredentials⟩
      known := uid_of_ownerSetter howner }

/-! ## When to try again -/

theorem unscheduled_validate (spec : Agent.Spec) : Unscheduled spec.validate := by
  unfold Agent.Spec.validate
  split
  · exact .ok ()
  · exact .error rfl

theorem unscheduled_tokenIn (secret : Secret) : Unscheduled (tokenIn secret) := by
  unfold tokenIn
  dsimp only
  split
  · exact .ok _
  · exact .error rfl

theorem unscheduled_forCredentials (spec : Agent.Spec) (token : String) :
    Unscheduled (Gateway.Request.forCredentials spec token) := by
  have hroots (bundle : String) : Unscheduled (Gateway.rootsOf bundle) := by
    unfold Gateway.rootsOf
    dsimp only
    split
    · exact .error rfl
    · split
      · exact .ok _
      · exact .error rfl
  unfold Gateway.Request.forCredentials
  dsimp only
  split
  · exact .error rfl
  · exact (hroots _).bind fun roots => .ok _

theorem unscheduled_credentials (reply : Gateway.Reply) : Unscheduled reply.credentials := by
  unfold Gateway.Reply.credentials
  split
  · exact .fault _
  · split
    · split
      · unfold Gateway.decodeCredentials
        dsimp only
        split
        · exact .fault _
        · split
          · exact .ok _
          · exact .fault _
      · exact .fault _
    · exact .fault _

theorem Fetches.unscheduled {token : String} {r : Except Error RegistryCredentials}
    (h : Fetches spec token log r) : Unscheduled r := by
  cases h with
  | unasked h => exact .error (unscheduled_forCredentials spec token _ h)
  | asked h reply => exact unscheduled_credentials reply

theorem unscheduled_ownerSetter (a : Agent.Resource) (spec : Agent.Spec) :
    Unscheduled (ownerSetter a spec) := by
  unfold ownerSetter
  split
  · exact .fault _
  · exact .ok _

/-- The agent's owner setter refuses no object. -/
theorem unscheduled_own {setOwner : Dataplane.OwnerSetter} (h : ownerSetter a spec = .ok setOwner)
    (o : Kube.Object) :
    Unscheduled (({ setOwner := some setOwner } : Dataplane.ApplyOptions).own o) := by
  have hsetter (metadata : ObjectMeta) : Unscheduled (setOwner metadata) := by
    unfold ownerSetter at h
    split at h
    · cases h
    · cases h
      dsimp only
      split
      · exact .ok _
      · exact .ok _
  exact (hsetter o.metadata).map

theorem secretRequest_eq_error {f : ApiFailure} (h : secretRequest spec = .error f) :
    ∃ reason, f = .unusable reason :=
  Api.Collection.item_bind_eq_error h fun _ => Api.forTarget_eq_error

theorem secretMissing_cons_iff {first : Exchange outside} {rest : List (Exchange outside)}
    {q : Api.Request} {response : Api.Response} (hq : secretRequest spec = .ok q) :
    SecretMissing spec (first :: ⟨.api q, response⟩ :: rest) ↔
      ∃ code message,
        response.readAs Secret.codec.read = .error (.status code "NotFound" message) := by
  constructor
  · rintro ⟨code, message, _, _, _, _, heq, -, hanswer⟩
    cases heq
    exact ⟨code, message, hanswer⟩
  · rintro ⟨code, message, hanswer⟩
    exact ⟨code, message, first, q, response, rest, rfl, hq, hanswer⟩

theorem not_secretMissing_of_length (h : log.length ≤ 1) : ¬ SecretMissing spec log := by
  rintro ⟨code, message, _, _, _, _, rfl, -⟩
  exact absurd h (by simp)

/-- A secret that is missing shows in what is said as it does in the error. -/
theorem ReadsToken.requeue {first : Exchange outside} {e : Error}
    (h : ReadsToken spec log (.error e)) :
    (SecretMissing spec (first :: log) ∧ e.requeue = some missingTokenRequeue) ∨
      (¬ SecretMissing spec (first :: log) ∧ e.requeue = none) := by
  obtain ⟨asked, result, hasked, rfl, htoken⟩ := h
  have hcases : (∃ code message, result = .error (.status code "NotFound" message)) ∧
        e.requeue = some missingTokenRequeue ∨
      (¬ ∃ code message, result = .error (.status code "NotFound" message)) ∧ e.requeue = none := by
    generalize hr : (Except.error e : Except Error String) = r at htoken
    cases htoken with
    | found secret =>
      refine .inr ⟨?_, unscheduled_tokenIn secret e hr.symm⟩
      rintro ⟨code, message, ⟨⟩⟩
    | missing code message h =>
      cases hr
      exact .inl ⟨⟨code, message, rfl⟩, h⟩
    | failed h =>
      cases hr
      refine .inr ⟨?_, rfl⟩
      rintro ⟨code, message, heq⟩
      exact h code message (Except.error.inj heq)
  cases hasked with
  | made hq response =>
    change SecretMissing spec (first :: ⟨.api _, response⟩ :: []) ∧ _ ∨
      ¬ SecretMissing spec (first :: ⟨.api _, response⟩ :: []) ∧ _
    rwa [secretMissing_cons_iff hq]
  | unmade hq =>
    obtain ⟨reason, rfl⟩ := secretRequest_eq_error hq
    rcases hcases with ⟨⟨code, message, ⟨⟩⟩, -⟩ | ⟨-, hplain⟩
    exact .inr ⟨not_secretMissing_of_length (Nat.le_refl 1), hplain⟩

theorem Counts.unscheduled {r : Except Error Unit} (h : Counts log r) : Unscheduled r := by
  obtain ⟨asked, result, -, -, hcount⟩ := h
  cases hcount with
  | single h => exact .ok ()
  | crowded h message => exact .error rfl
  | failed f => exact .fault _

theorem Counts.length_le {r : Except Error Unit} (h : Counts log r) : log.length ≤ 1 := by
  obtain ⟨asked, result, hasked, rfl, -⟩ := h
  cases hasked with
  | unmade hq => exact Nat.zero_le 1
  | made hq response => exact Nat.le_refl 1

/-- Behind a token that was read the secret is not missing. -/
theorem not_secretMissing_of_token {listing reading rest : List (Exchange outside)} {token : String}
    (hlist : Counts listing (.ok ())) (hread : ReadsToken spec reading (.ok token)) :
    ¬ SecretMissing spec (listing ++ (reading ++ rest)) := by
  obtain ⟨q₁, r₁, found, rfl, -⟩ := hlist.eq_singleton
  obtain ⟨q₂, r₂, secret, rfl, hq, hsecret, -⟩ := hread.eq_singleton
  intro hmissing
  obtain ⟨code, message, hanswer⟩ := (secretMissing_cons_iff hq).1 hmissing
  cases hsecret.symm.trans hanswer

/-- **When to try again.** An error comes with a time of its own exactly if the token's
secret was missing. -/
theorem Course.requeue {e : Error} (h : Course a spec m log (.error e))
    (hissues : IssuesUnscheduled log) :
    (SecretMissing spec log ∧ e.requeue = some missingTokenRequeue) ∨
      (¬ SecretMissing spec log ∧ e.requeue = none) := by
  generalize hr : (Except.error e : Except Error Bool) = r at h
  cases h with
  | invalid hspec =>
    cases hr
    exact .inr ⟨not_secretMissing_of_length (Nat.zero_le 1), unscheduled_validate spec e hspec⟩
  | uncounted hspec hlist =>
    cases hr
    exact .inr ⟨not_secretMissing_of_length hlist.length_le, hlist.unscheduled e rfl⟩
  | tokenless hspec hlist hread =>
    cases hr
    obtain ⟨q, response, found, rfl, -⟩ := hlist.eq_singleton
    exact hread.requeue
  | refused hspec hlist hread hfetch =>
    cases hr
    exact .inr ⟨not_secretMissing_of_token hlist hread, hfetch.unscheduled e rfl⟩
  | ownerless hspec hlist hread hfetch howner =>
    cases hr
    exact .inr ⟨not_secretMissing_of_token hlist hread, unscheduled_ownerSetter a spec e howner⟩
  | passed hspec hlist hread hfetch howner hpass =>
    subst hr
    refine .inr ⟨not_secretMissing_of_token hlist hread, ?_⟩
    refine unscheduled_ofPass (Dataplane.keepsSchedule_applyDesiredState (unscheduled_own howner))
      hpass (fun service reply hreply => hissues service reply ?_) e rfl
    exact List.mem_append_right _ (List.mem_append_right _ (List.mem_append_right _ hreply))

/-! ## Reconciliation -/

/-- What is said when an agent is reconciled and its outcome is reported, and the result of
that. `before` is said until the outcome is known, and `after` is said of it. -/
structure Reconciliation (config : OperatorConfig) (a : Agent.Resource) (m : Dataplane.Memory)
    (before after : List (Exchange outside)) (outcome : Except Error Bool) (r : Except Error Next) :
    Prop where
  /-- The outcome is that of the pass, if all gates are open, and else why one is closed. -/
  course : Course a a.spec.withDefaults m before outcome
  /-- If anything is written, then all gates are open. -/
  gated : (∃ e ∈ before, e.changes = true) → Cleared a a.spec.withDefaults before
  /-- All that is asked of the API server later on is to take a status that tells the
  outcome. -/
  told : ∀ q response, ⟨.api q, response⟩ ∈ after → ∃ status, statusRequest a status = .ok q ∧
    q.method = .patch ∧ q.body = some (statusPatch status) ∧ Tells outcome status.conditions
  /-- The outcome is the result, unless the status cannot be sent. -/
  result : (r = (fun _ => Next.after config.requeue) <$> outcome) ∨
    ∃ f, r = .error (Fault.api f : Fault) ∧
      ((∃ status, statusRequest a status = .error f) ∨
        ∃ q response, ⟨.api q, response⟩ ∈ after ∧
          response.readAs Agent.Resource.codec.read = .error f)
  /-- If nothing is sent, the agent's status tells the outcome already. -/
  silent : (∀ q response, ⟨.api q, response⟩ ∉ after) →
    Tells outcome (a.status.getD {}).conditions ∨ ∃ status f, statusRequest a status = .error f
  /-- An error says when to try again exactly if the token's secret is missing. -/
  requeue : (∀ service reply, ⟨.issueTls service, reply⟩ ∈ before →
      ∃ d : TlsDirectory, reply = d.issue service) → ∀ e, outcome = .error e →
    (SecretMissing a.spec.withDefaults before ∧ e.requeue = some missingTokenRequeue) ∨
      (¬ SecretMissing a.spec.withDefaults before ∧ e.requeue = none)

/-- An agent is applied, and then the outcome is reported and returned, unless reporting
it fails. -/
theorem reported_of_converses {config : OperatorConfig} {r : Except Error Next}
    (h : ((applyAndReport config a).run.run m).Converses log (r, m')) :
    ∃ before after outcome reply m₁, log = before ++ after ∧
      ((applyAgent a a.spec.withDefaults).run.run m).Converses before (outcome, m₁) ∧
      ((reportStatus a outcome).run.run m₁).Converses after (reply, m') ∧
      r = reply >>= fun _ => (fun _ => Next.after config.requeue) <$> outcome := by
  unfold applyAndReport at h
  rcases Deed.converses_bind_iff.1 h with ⟨e, hfailed, -⟩ |
    ⟨before, after, outcome, m₁, rfl, hdone, hreport⟩
  · obtain ⟨_, -, heq⟩ := Work.converses_outcome_iff.1 hfailed
    cases heq
  obtain ⟨_, happly, heq⟩ := Work.converses_outcome_iff.1 hdone
  cases heq
  rcases Deed.converses_bind_iff.1 hreport with ⟨e, hfailed, rfl⟩ |
    ⟨said, rest, u, m₂, rfl, hreported, hresult⟩
  · exact ⟨before, after, outcome, .error e, m₁, rfl, happly, hfailed, rfl⟩
  rcases Deed.converses_bind_iff.1 hresult with ⟨e, hfailed, rfl⟩ |
    ⟨unsaid, rest, b, m₃, rfl, hok, hlast⟩
  · obtain ⟨rfl, rfl, rfl⟩ := Work.converses_ofExcept_iff.1 hfailed
    rw [List.append_nil]
    exact ⟨before, said, .error e, .ok u, m₁, rfl, happly, hreported, rfl⟩
  · obtain ⟨rfl, rfl, rfl⟩ := Work.converses_ofExcept_iff.1 hok
    obtain ⟨rfl, rfl, rfl⟩ := Deed.converses_pure_iff.1 hlast
    rw [List.append_nil, List.append_nil]
    exact ⟨before, said, .ok b, .ok u, m₁, rfl, happly, hreported, rfl⟩

/-- **Reconciliation is gated and truthful.** Whatever the API server, the gateway and the
issuer of certificates answer, and whatever was remembered, nothing is written while a gate
is closed, the status tells the outcome, and the outcome is the result unless the status
cannot be sent. -/
theorem applyAndReport_gated_and_truthful (config : OperatorConfig) (a : Agent.Resource)
    {r : Except Error Next}
    (h : ((applyAndReport config a).run.run m).Converses log (r, m')) :
    ∃ before after outcome, log = before ++ after ∧
      Reconciliation config a m before after outcome r := by
  obtain ⟨before, after, outcome, reply, m₁, rfl, happly, hreported, rfl⟩ := reported_of_converses h
  have hcourse := course_of_converses happly
  obtain ⟨rfl, now, rest, rfl, hreporting⟩ := reporting_of_converses hreported
  refine ⟨before, _, outcome, rfl, ?_⟩
  constructor
  case course => exact hcourse
  case gated => exact hcourse.gated
  case told => exact fun q response hsaid => hreporting.told (mem_after_now_iff.1 hsaid)
  case result =>
    rcases hreporting.result with rfl | ⟨f, rfl, hcause⟩
    · exact .inl rfl
    · refine .inr ⟨f, rfl, hcause.imp_right ?_⟩
      rintro ⟨q, response, hsaid, hanswer⟩
      exact ⟨q, response, mem_after_now_iff.2 hsaid, hanswer⟩
  case silent =>
    exact fun hsilent => hreporting.silent fun q response hsaid =>
      hsilent q response (mem_after_now_iff.2 hsaid)
  case requeue =>
    rintro hissued e rfl
    exact hcourse.requeue (issuesUnscheduled_of_directory hissued)

/-- Reconciling a live agent comes down to that. -/
theorem reconcile_live {config : OperatorConfig} (h : stage a = .live) :
    (reconcile config a).run.run m = (applyAndReport config a).run.run
      { m with metrics := m.metrics.countReconciliation timedAs } := by
  unfold reconcile
  rw [h]
  rfl

/-! ### An agent without an account -/

/-- An agent whose spec leaves everything to the defaults, of which the account has none. -/
def blankAgent : Agent.Resource := { metadata := {}, spec := default }

/-- A world without objects, in which the gateway cannot be reached. -/
def bareWorld : World := { gateway := .error "unreachable", tls := { root := "/tls" }, now := default }

/-- Nothing is written for it. -/
theorem blankAgent_unwritten :
    ∃ log, ((applyAndReport {} blankAgent).run.run {}).Converses log
        (bareWorld.perform {} (applyAndReport {} blankAgent)).1 ∧
      ∃ before after outcome, log = before ++ after ∧
        Reconciliation {} blankAgent {} before after outcome
          (bareWorld.perform {} (applyAndReport {} blankAgent)).1.1 ∧
        ∀ e ∈ before, e.changes = false := by
  obtain ⟨log, hlog⟩ := Script.exists_converses World.answer
    ((applyAndReport {} blankAgent).run.run {}) bareWorld
  refine ⟨log, hlog, ?_⟩
  obtain ⟨before, after, outcome, hsplit, h⟩ :=
    applyAndReport_gated_and_truthful {} blankAgent hlog
  refine ⟨before, after, outcome, hsplit, h, fun e he => eq_false_of_ne_true fun hchange => ?_⟩
  have hvalid := (h.gated ⟨e, he, hchange⟩).valid
  cases hvalid

end Controller

end AgentOperator
