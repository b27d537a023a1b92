import AgentOperator.Api.Store
import AgentOperator.Proofs.Assembly
import AgentOperator.Proofs.Atomicity
import AgentOperator.Proofs.Readings

/-!
AgentOperator.Proofs.KubeletVersion — the version is settled once.

Passes and cleanups share what they remember of the cluster, and that is the
version of its kubelets. Whatever the cluster and the store answer, the version
is asked for until it is told, and no more (`kubelet_version_settled_once`).
Until then nothing else is said at all. From then on every call to the store is
about an object of the API generations of that one version, because every object
is made from a template of that version or was read like one.
-/

namespace AgentOperator.Dataplane

open Kube (AdmissionVersion Object ObjectKey ObjectMeta PriorityClass SchedulingVersion
  WebhookConfiguration)
open Pass
open Store (Call)

/-! ## Generations -/

/-- The object by which a call names an API generation: what is read is read like a
template. -/
def subject : Call → Object
  | .get template _ => template
  | .create o | .update o | .delete o => o

/-- A call about an object of the API generation that a kubelet version asks for. -/
def Suits (version : String) (call : Call) : Prop :=
  (subject call).apiVersion = (Object.empty version call.kind).apiVersion

/-- What is read is of the kind and the API generation of the template it is read
like. -/
def ReadsLike (log : List (Exchange outside)) : Prop :=
  ∀ template key o, (⟨.store (.get template key), .ok (some o)⟩ : Exchange outside) ∈ log →
    o.kind = template.kind ∧ o.apiVersion = template.apiVersion

theorem ReadsLike.of_subset {log part : List (Exchange outside)} (h : ReadsLike log)
    (hsub : part ⊆ log) : ReadsLike part :=
  fun template key o ho => h template key o (hsub ho)

theorem decodeLike_apiVersion {template o : Object} {j : Json}
    (h : template.decodeLike j = .ok o) : o.apiVersion = template.apiVersion := by
  cases template <;> obtain ⟨a, ha, rfl⟩ := Except.map_eq_ok.1 h
  case priorityClass t =>
    have hversion := (PriorityClass.yields (Kube.orUnreadable_eq_ok.1 ha)).1
    exact congrArg SchedulingVersion.apiVersion hversion
  case validatingWebhookConfiguration t =>
    have hversion := (WebhookConfiguration.decode_yields (Object.decode_of_decodeWebhooks ha)).1
    exact congrArg AdmissionVersion.apiVersion hversion
  case mutatingWebhookConfiguration t =>
    have hversion := (WebhookConfiguration.decode_yields (Object.decode_of_decodeWebhooks ha)).1
    exact congrArg AdmissionVersion.apiVersion hversion
  all_goals rfl

/-- The API server as a store reads like that. -/
theorem answerStore_reads_like {template o : Object} {key : ObjectKey}
    {asked : List (Exchange Api.outside)}
    (h : (Api.answerStore (.get template key)).Converses asked (.ok (some o))) :
    o.kind = template.kind ∧ o.apiVersion = template.apiVersion := by
  obtain ⟨before, after, result, rfl, -, hafter⟩ := Script.converses_bind_iff.1 h
  cases result with
  | ok j =>
    obtain ⟨-, heq⟩ := Script.converses_pure_iff.1 hafter
    obtain ⟨o', hdecode, ho'⟩ := Except.map_eq_ok.1 heq.symm
    cases ho'
    exact ⟨decodeLike_kind hdecode, decodeLike_apiVersion hdecode⟩
  | error f =>
    dsimp only at hafter
    split at hafter
    · obtain ⟨-, heq⟩ := Script.converses_pure_iff.1 hafter
      cases heq
    · obtain ⟨-, heq⟩ := Script.converses_pure_iff.1 hafter
      cases heq

variable {c : Component} {s : Surroundings} {spec : Agent.Spec} {opts : ApplyOptions}
  {log : List (Exchange outside)} {found : Option Object} {o o₁ : Object} {kubelet : String}

theorem apiVersion_withMetadata (o : Object) (m : ObjectMeta) :
    (o.withMetadata m).apiVersion = o.apiVersion := by
  cases o <;> rfl

theorem own_apiVersion (h : opts.own o = .ok o₁) : o₁.apiVersion = o.apiVersion := by
  unfold ApplyOptions.own at h
  split at h
  · cases h
    rfl
  · obtain ⟨m, -, rfl⟩ := Except.map_eq_ok.1 h
    exact apiVersion_withMetadata o m

theorem Component.Change.apiVersion_eq (h : Component.Change s spec c o o₁) :
    o₁.apiVersion = o.apiVersion := by
  cases h with
  | validatingWebhook w htls =>
    simp only [Object.apiVersion, withValidatingEntries, withEntries_eq, withConfigurationLabels]
  | mutatingWebhook w htls =>
    simp only [Object.apiVersion, withMutatingEntries, withEntries_eq, withConfigurationLabels]
  | _ => rfl

/-- What is prepared is of the generation of what it was prepared from. -/
theorem Component.Prepares.apiVersion_eq (h : c.Prepares s spec opts found log (.ok o)) :
    o.apiVersion = (found.getD (c.emptyObject s.kubelet)).apiVersion := by
  obtain ⟨made, hmakes, ho⟩ := h
  obtain ⟨o₁, rfl, hown⟩ := Except.bind_eq_ok.1 ho.symm
  obtain ⟨issued, hmutate⟩ := hmakes.mutate
  have hkeyed : (c.keyed spec found o₁).apiVersion = o₁.apiVersion := by
    cases found with
    | none => exact apiVersion_withMetadata _ _
    | some observed => rfl
  rw [own_apiVersion hown, hkeyed]
  exact (Component.change_of_mutate hmutate).apiVersion_eq

/-! ## Work at a version -/

/-- The answer to the question for the version, where that was asked. -/
def versionAnswer? : Exchange outside → Option (Except Error String)
  | ⟨.kubeletVersion, reply⟩ => some reply
  | _ => none

/-- Nothing but calls about objects of one version's generations, and other facts than the
version. -/
def At (version : String) (log : List (Exchange outside)) : Prop :=
  log.filterMap versionAnswer? = [] ∧
    ∀ e ∈ log, ∀ call, e.call? = some call → Suits version call

theorem at_nil (version : String) : At version [] := ⟨rfl, fun _ h => by cases h⟩

theorem At.append {version : String} {before after : List (Exchange outside)}
    (h : At version before) (h' : At version after) : At version (before ++ after) := by
  refine ⟨by rw [List.filterMap_append, h.1, h'.1]; rfl, ?_⟩
  intro e he
  rcases List.mem_append.1 he with he | he
  · exact h.2 e he
  · exact h'.2 e he

theorem At.cons {version : String} {e : Exchange outside} (hasks : versionAnswer? e = none)
    (hcall : ∀ call, e.call? = some call → Suits version call) (h : At version log) :
    At version (e :: log) := by
  refine ⟨by rw [List.filterMap_cons_none hasks, h.1], ?_⟩
  intro e' he'
  rcases List.mem_cons.1 he' with rfl | he'
  · exact hcall
  · exact h.2 e' he'

theorem suits_template (c : Component) (version : String) (key : ObjectKey) :
    Suits version (.get (c.emptyObject version) key) := by
  rw [Suits, Call.kind, emptyObject_kind]
  rfl

theorem Component.Makes.at {r : Except Error Object} (h : c.Makes s spec o log r)
    (version : String) : At version log := by
  cases h with
  | unasked hc => exact at_nil version
  | refused hc hkind => exact at_nil version
  | asked hc hkind issued => exact .cons rfl (fun call hcall => by cases hcall) (at_nil version)

/-- Bringing a component to the spec is at the version of its surroundings. -/
theorem at_apply {r : Except Error Applied} (h : (apply c s spec opts).run.Converses log r)
    (hlike : ReadsLike log) : At s.kubelet log := by
  obtain ⟨reply, rest, rfl, happlies⟩ := applies_of_converses h
  have hread : ∀ call, (⟨.store (.get (c.emptyObject s.kubelet) (c.key spec)), reply⟩ :
      Exchange outside).call? = some call → Suits s.kubelet call := by
    intro call hcall
    cases hcall
    exact suits_template c s.kubelet _
  apply At.cons rfl hread
  cases happlies with
  | unread e => exact at_nil _
  | kept honly => exact at_nil _
  | refused hprepares =>
    obtain ⟨made, hmakes, -⟩ := hprepares
    exact hmakes.at _
  | same hprepares =>
    obtain ⟨made, hmakes, -⟩ := hprepares
    exact hmakes.at _
  | @written found o asked honly hne hprepares w =>
    obtain ⟨made, hmakes, -⟩ := id hprepares
    have hsource : (found.getD (c.emptyObject s.kubelet)).apiVersion
        = (c.emptyObject s.kubelet).apiVersion := by
      cases found with
      | none => rfl
      | some observed => exact (hlike _ _ observed (.head _)).2
    have hwrite : ∀ call, (writing found o w).call? = some call → Suits s.kubelet call := by
      intro call hcall
      have hobject : call.kind = o.kind ∧ subject call = o := by
        rw [writing_call?] at hcall
        cases hcall
        split <;> exact ⟨rfl, rfl⟩
      rw [Suits, hobject.1, hobject.2, hprepares.kind_eq, hprepares.apiVersion_eq, hsource]
      rfl
    have hunasked : versionAnswer? (writing found o w) = none := by
      cases found <;> rfl
    exact (hmakes.at _).append (.cons hunasked hwrite (at_nil _))

theorem at_deleteIfExists {r : Except Error Bool}
    (h : (deleteIfExists c kubelet spec).run.Converses log r) (hlike : ReadsLike log) :
    At kubelet log := by
  obtain ⟨found, hdeletion⟩ := oneDeletion_of_converses h
  have hread : ∀ call, (⟨.store (.get (c.emptyObject kubelet) (c.key spec)), found⟩ :
      Exchange outside).call? = some call → Suits kubelet call := by
    intro call hcall
    cases hcall
    exact suits_template c kubelet _
  by_cases hpresent : ∃ o, found = .ok (some o)
  · obtain ⟨o, rfl⟩ := hpresent
    obtain ⟨reply, rfl, -⟩ := hdeletion.present o rfl
    obtain ⟨hkind, hversion⟩ := hlike _ _ o (.head _)
    apply At.cons rfl hread
    apply At.cons rfl
    · intro call hcall
      cases hcall
      rw [Suits, subject, Call.kind, hversion, hkind, emptyObject_kind]
      rfl
    · exact at_nil _
  · obtain ⟨rfl, -⟩ := hdeletion.absent fun o ho => hpresent ⟨o, ho⟩
    exact .cons rfl hread (at_nil _)

namespace Pass

variable {α β : Type} {setOwner : Option OwnerSetter}

/-- Work that leaves the remembered version alone, and goes by one version whatever is
remembered. -/
def Abides (version : String) (p : Pass α) : Prop :=
  ∀ m log r m', (p.run.run m).Converses log (r, m') → ReadsLike log →
    m'.kubelet = m.kubelet ∧ At version log

theorem Abides.pure (a : α) : Abides kubelet (pure a) := by
  intro m log r m' h _
  obtain ⟨rfl, -, rfl⟩ := Deed.converses_pure_iff.1 h
  exact ⟨rfl, at_nil _⟩

theorem abides_throw (e : Error) : Abides kubelet (throw e : Pass α) := by
  intro m log r m' h _
  obtain ⟨rfl, heq⟩ := Script.converses_pure_iff.1 h
  cases heq
  exact ⟨rfl, at_nil _⟩

theorem Abides.bind {p : Pass α} {k : α → Pass β} (hp : Abides kubelet p)
    (hk : ∀ a, Abides kubelet (k a)) : Abides kubelet (p >>= k) := by
  intro m log r m' h hlike
  rcases Deed.converses_bind_iff.1 h with ⟨e, hstop, rfl⟩ | ⟨before, after, a, m₁, rfl, hfirst, hnext⟩
  · exact hp m log _ m' hstop hlike
  · obtain ⟨hm₁, hbefore⟩ := hp m before _ m₁ hfirst
      (hlike.of_subset (List.subset_append_left _ _))
    obtain ⟨hm', hafter⟩ := hk a m₁ after r m' hnext
      (hlike.of_subset (List.subset_append_right _ _))
    exact ⟨hm'.trans hm₁, hbefore.append hafter⟩

theorem Abides.tryCatch {p : Pass α} {k : Error → Pass α} (hp : Abides kubelet p)
    (hk : ∀ e, Abides kubelet (k e)) : Abides kubelet (MonadExcept.tryCatch p k) := by
  intro m log r m' h hlike
  rw [tryCatch_eq] at h
  obtain ⟨before, after, ⟨r₁, m₁⟩, rfl, hfirst, hnext⟩ := Script.converses_bind_iff.1 h
  obtain ⟨hm₁, hbefore⟩ := hp m before r₁ m₁ hfirst
    (hlike.of_subset (List.subset_append_left _ _))
  cases r₁ with
  | ok a =>
    obtain ⟨rfl, heq⟩ := Script.converses_pure_iff.1 hnext
    cases heq
    exact ⟨hm₁, hbefore.append (at_nil _)⟩
  | error e =>
    obtain ⟨hm', hafter⟩ := hk e m₁ after r m' hnext
      (hlike.of_subset (List.subset_append_right _ _))
    exact ⟨hm'.trans hm₁, hbefore.append hafter⟩

theorem Abides.ofTask {t : Task α}
    (h : ∀ log r, t.run.Converses log r → ReadsLike log → At kubelet log) :
    Abides kubelet (ofTask t) := by
  intro m log r m' hconverses hlike
  obtain ⟨before, after, r', rfl, hbefore, hafter⟩ := Script.converses_bind_iff.1 hconverses
  obtain ⟨rfl, heq⟩ := Script.converses_pure_iff.1 hafter
  cases heq
  rw [List.append_nil] at hlike ⊢
  exact ⟨rfl, h before r hbefore hlike⟩

theorem abides_ofExcept (r : Except Error α) : Abides kubelet (ofTask (Task.ofExcept r)) := by
  apply Abides.ofTask
  intro log r' h _
  obtain ⟨rfl, -⟩ := Task.converses_ofExcept_iff.1 h
  exact at_nil _

theorem abides_applied : Abides s.kubelet (applied c s spec opts) := by
  apply Abides.bind (.ofTask fun log r => at_apply)
  intro a
  split
  · apply Abides.bind _ fun _ => .pure _
    intro m log r m' h _
    obtain ⟨rfl, heq⟩ := Script.converses_pure_iff.1 h
    cases heq
    exact ⟨rfl, at_nil _⟩
  · exact .pure _

theorem abides_deleteAll {cs : List Component} :
    Abides kubelet (deleteAll kubelet spec cs) := by
  induction cs with
  | nil => exact .pure _
  | cons c cs ih =>
    apply Abides.bind (.ofTask fun log r => at_deleteIfExists)
    intro first
    exact ih.bind fun rest => .pure _

/-- All work that is put together of steps goes by the version they have. -/
theorem Assembled.abides {p : Pass α} (h : Assembled kubelet spec setOwner p) :
    Abides kubelet p := by
  induction h with
  | pure a => exact .pure a
  | bind hp hk ihp ihk => exact ihp.bind ihk
  | asSecret o => exact abides_ofExcept _
  | readyReplicas o => exact abides_ofExcept _
  | ofSecretData stored => exact abides_ofExcept _
  | nodeCount =>
    apply Abides.ofTask
    intro log r h _
    cases Task.converses_ask_iff.1 h
    exact .cons rfl (fun call hcall => by cases hcall) (at_nil _)
  | applied c hkubelet hissued hopts =>
    rw [← hkubelet]
    exact abides_applied
  | deleteIfExists c => exact .ofTask fun log r => at_deleteIfExists
  | orPullWebhooks hp ih =>
    exact ih.tryCatch fun e => abides_deleteAll.bind fun _ => abides_throw e

/-- The version that is remembered is not asked for; one that is not is asked for once, and
remembered if it is told. -/
theorem converses_kubeletVersion {m m' : Memory} {r : Except Error String}
    (h : (kubeletVersion.run.run m).Converses log (r, m')) :
    (∃ version, m.kubelet = some version ∧ m' = m ∧ log = [] ∧ r = .ok version) ∨
      (∃ e, m.kubelet = none ∧ m' = m ∧ log = [⟨.kubeletVersion, .error e⟩] ∧ r = .error e) ∨
      ∃ version, m.kubelet = none ∧ m'.kubelet = some version ∧
        log = [⟨.kubeletVersion, .ok version⟩] ∧ r = .ok version := by
  have hget : ∀ {log r m₁}, ((get : Pass Memory).run.run m).Converses log (r, m₁) →
      log = [] ∧ r = .ok m ∧ m₁ = m := by
    intro log r m₁ hget
    obtain ⟨rfl, heq⟩ := Script.converses_pure_iff.1 hget
    cases heq
    exact ⟨rfl, rfl, rfl⟩
  unfold kubeletVersion at h
  rcases Deed.converses_bind_iff.1 h with ⟨e, hstop, rfl⟩ | ⟨before, after, memory, m₁, rfl, hfirst, hnext⟩
  · obtain ⟨-, hr, -⟩ := hget hstop
    cases hr
  obtain ⟨rfl, hr, rfl⟩ := hget hfirst
  cases hr
  cases hm : memory.kubelet with
  | some version =>
    rw [hm] at hnext
    obtain ⟨rfl, rfl, rfl⟩ := Deed.converses_pure_iff.1 hnext
    exact .inl ⟨version, rfl, rfl, rfl, rfl⟩
  | none =>
    rw [hm] at hnext
    have hask : ∀ {log r m'}, ((ofTask Task.kubeletVersion).run.run memory).Converses log (r, m') →
        log = [⟨.kubeletVersion, r⟩] ∧ m' = memory := by
      intro log r m' h
      obtain ⟨before, after, r', rfl, hbefore, hafter⟩ := Script.converses_bind_iff.1 h
      obtain ⟨rfl, heq⟩ := Script.converses_pure_iff.1 hafter
      cases heq
      rw [List.append_nil]
      exact ⟨Task.converses_ask_iff.1 hbefore, rfl⟩
    rcases Deed.converses_bind_iff.1 hnext with
      ⟨e, hstop, rfl⟩ | ⟨before, after, version, m₂, rfl, htold, hdone⟩
    · obtain ⟨rfl, rfl⟩ := hask hstop
      exact .inr (.inl ⟨e, rfl, rfl, rfl, rfl⟩)
    · obtain ⟨rfl, rfl⟩ := hask htold
      obtain ⟨rfl, heq⟩ := Script.converses_pure_iff.1 hdone
      cases heq
      exact .inr (.inr ⟨version, rfl, rfl, rfl, rfl⟩)

end Pass

/-! ## Operations -/

/-- What can be done to the dataplane time and again. -/
inductive Operation where
  | pass (spec : Agent.Spec) (registry : RegistryCredentials) (setOwner : Option OwnerSetter)
  | cleanup (spec : Agent.Spec)

def Operation.run : Operation → Pass Bool
  | .pass spec registry setOwner => applyDesiredState spec registry setOwner
  | .cleanup spec => deleteClusterScoped spec

/-- Every operation begins with the version and then goes by it. -/
theorem Operation.run_eq (op : Operation) :
    ∃ work : String → Pass Bool, op.run = kubeletVersion >>= work ∧
      ∀ version, Abides version (work version) := by
  cases op with
  | pass spec registry setOwner =>
    exact ⟨_, applyDesiredState_eq spec registry setOwner, fun version =>
      (assembled_applyKnown registry).abides⟩
  | cleanup spec => exact ⟨_, rfl, fun version => abides_deleteAll⟩

/-- An operation with what was said in it and how it ended. -/
structure Episode where
  operation : Operation
  said : List (Exchange outside)
  result : Except Error Bool

/-- The answers to the question for the version. -/
def Episode.answers (e : Episode) : List (Except Error String) := e.said.filterMap versionAnswer?

/-- Operations one after the other, each with what the ones before it left
remembered. -/
inductive Lifetime : Memory → List Episode → Memory → Prop where
  | nil (m : Memory) : Lifetime m [] m
  | cons {m m₁ m' : Memory} {e : Episode} {es : List Episode}
      (h : (e.operation.run.run.run m).Converses e.said (e.result, m₁)) (rest : Lifetime m₁ es m') :
    Lifetime m (e :: es) m'

/-- The course of one operation: from what is known of the version before it to what is
known after it. -/
inductive Episode.Course (e : Episode) : Option String → Option String → Prop where
  | known {version : String} (h : At version e.said) : Course e (some version) (some version)
  | unlearnt {error : Error} (hsaid : e.said = [⟨.kubeletVersion, .error error⟩])
      (hresult : e.result = .error error) : Course e none none
  | learnt {version : String} {rest : List (Exchange outside)}
      (hsaid : e.said = ⟨.kubeletVersion, .ok version⟩ :: rest) (hrest : At version rest) :
    Course e none (some version)

theorem course_of_converses {e : Episode} {m m' : Memory}
    (h : (e.operation.run.run.run m).Converses e.said (e.result, m')) (hlike : ReadsLike e.said) :
    e.Course m.kubelet m'.kubelet := by
  obtain ⟨work, hrun, habides⟩ := e.operation.run_eq
  rw [hrun] at h
  rcases Deed.converses_bind_iff.1 h with
    ⟨error, hstop, hresult⟩ | ⟨before, after, version, m₁, hsaid, hfirst, hnext⟩
  · rcases converses_kubeletVersion hstop with
      ⟨_, -, -, -, hr⟩ | ⟨error', hm, rfl, hsaid, hr⟩ | ⟨_, -, -, -, hr⟩
    · cases hr
    · cases hr
      rw [hm]
      exact .unlearnt hsaid hresult
    · cases hr
  · rw [hsaid] at hlike
    obtain ⟨hkept, hat⟩ := habides version m₁ after e.result m' hnext
      (hlike.of_subset (List.subset_append_right _ _))
    rw [hkept]
    rcases converses_kubeletVersion hfirst with
      ⟨known, hm, rfl, rfl, hr⟩ | ⟨_, -, -, -, hr⟩ | ⟨told, hm, hm₁, rfl, hr⟩
    · cases hr
      rw [hm]
      exact .known (hsaid ▸ hat)
    · cases hr
    · cases hr
      rw [hm, hm₁]
      exact .learnt hsaid hat

/-! ## The version over a lifetime -/

/-- The version that everything goes by: the one that is given, or else the first that is
told. -/
def firstVersion (override : Option String) (es : List Episode) : Option String :=
  override.or ((es.flatMap Episode.answers).findSome? Except.toOption)

/-- The version is told in an operation. -/
def Episode.Learns (e : Episode) : Prop := ∃ version, .ok version ∈ e.answers

/-- How the version is asked for and used over a lifetime. -/
structure SettledOnce (override : Option String) (es : List Episode) : Prop where
  /-- A version that is given is never asked for. -/
  given : ∀ version, override = some version → ∀ e ∈ es, e.answers = []
  /-- Otherwise it is asked for once in every operation until it is told. -/
  asked : override = none → ∀ before e after, es = before ++ e :: after →
    (∀ earlier ∈ before, ¬ earlier.Learns) → ∃ answer, e.answers = [answer]
  /-- After that it is not asked for again. -/
  told : ∀ before e after, es = before ++ e :: after → (∃ earlier ∈ before, earlier.Learns) →
    e.answers = []
  /-- An operation that is not told the version says nothing more, and fails for that. -/
  unlearnt : ∀ e ∈ es, ∀ error, .error error ∈ e.answers →
    e.said = [⟨.kubeletVersion, .error error⟩] ∧ e.result = .error error
  /-- Every call to the store is about an object of the API generations of the one
  version. -/
  suits : ∀ e ∈ es, ∀ x ∈ e.said, ∀ call, x.call? = some call →
    ∃ version, firstVersion override es = some version ∧ Suits version call

theorem answers_of_said {e : Episode} {reply : Except Error String}
    {rest : List (Exchange outside)} (h : e.said = ⟨.kubeletVersion, reply⟩ :: rest) :
    e.answers = reply :: rest.filterMap versionAnswer? := by
  rw [Episode.answers, h]
  rfl

theorem settledOnce_nil (override : Option String) : SettledOnce override [] where
  given _ _ _ h := by cases h
  asked _ before e after h := by cases before <;> cases h
  told before e after h := by cases before <;> cases h
  unlearnt _ h := by cases h
  suits _ h := by cases h

variable {e : Episode} {es : List Episode} {version : String}

/-- An operation that knows the version, before others that do. -/
theorem SettledOnce.cons_known (hat : At version e.said) (h : SettledOnce (some version) es) :
    SettledOnce (some version) (e :: es) where
  given v _ e' he' := by
    rcases List.mem_cons.1 he' with rfl | he'
    · exact hat.1
    · exact h.given version rfl e' he'
  asked hnone := by cases hnone
  told before e' after heq _ := by
    have he' : e' ∈ e :: es := heq ▸ List.mem_append_right _ (.head _)
    rcases List.mem_cons.1 he' with rfl | he'
    · exact hat.1
    · exact h.given version rfl e' he'
  unlearnt e' he' error herror := by
    have hanswers : e'.answers = [] := by
      rcases List.mem_cons.1 he' with rfl | he'
      · exact hat.1
      · exact h.given version rfl e' he'
    rw [hanswers] at herror
    cases herror
  suits e' he' x hx call hcall := by
    refine ⟨version, rfl, ?_⟩
    rcases List.mem_cons.1 he' with rfl | he'
    · exact hat.2 x hx call hcall
    · obtain ⟨v, hv, hsuits⟩ := h.suits e' he' x hx call hcall
      cases hv
      exact hsuits

/-- An operation that is not told the version, before others. -/
theorem SettledOnce.cons_unlearnt {error : Error}
    (hsaid : e.said = [⟨.kubeletVersion, .error error⟩]) (hresult : e.result = .error error)
    (h : SettledOnce none es) : SettledOnce none (e :: es) := by
  have hanswers : e.answers = [.error error] := answers_of_said hsaid
  have hlearns : ¬ e.Learns := by
    rintro ⟨v, hv⟩
    rw [hanswers] at hv
    cases List.mem_singleton.1 hv
  constructor
  case given => intro v hv; cases hv
  case asked =>
    intro _ before e' after heq hbefore
    cases before with
    | nil =>
      cases heq
      exact ⟨_, hanswers⟩
    | cons first before =>
      cases heq
      exact h.asked rfl before e' after rfl fun earlier he => hbefore earlier (.tail _ he)
  case told =>
    intro before e' after heq hlearnt
    cases before with
    | nil =>
      obtain ⟨earlier, he, -⟩ := hlearnt
      cases he
    | cons first before =>
      cases heq
      obtain ⟨earlier, he, hlearnt⟩ := hlearnt
      rcases List.mem_cons.1 he with rfl | he
      · exact absurd hlearnt hlearns
      · exact h.told before e' after rfl ⟨earlier, he, hlearnt⟩
  case unlearnt =>
    intro e' he' error' herror'
    rcases List.mem_cons.1 he' with rfl | he'
    · rw [hanswers] at herror'
      cases List.mem_singleton.1 herror'
      exact ⟨hsaid, hresult⟩
    · exact h.unlearnt e' he' error' herror'
  case suits =>
    intro e' he' x hx call hcall
    have hfirst : firstVersion none (e :: es) = firstVersion none es := by
      simp only [firstVersion, List.flatMap_cons, hanswers]
      rfl
    rw [hfirst]
    rcases List.mem_cons.1 he' with rfl | he'
    · rw [hsaid] at hx
      cases List.mem_singleton.1 hx
      cases hcall
    · exact h.suits e' he' x hx call hcall

/-- The operation that is told the version, before others that know it. -/
theorem SettledOnce.cons_learnt {rest : List (Exchange outside)}
    (hsaid : e.said = ⟨.kubeletVersion, .ok version⟩ :: rest) (hrest : At version rest)
    (h : SettledOnce (some version) es) : SettledOnce none (e :: es) := by
  have hanswers : e.answers = [.ok version] := by
    rw [answers_of_said hsaid, hrest.1]
    rfl
  constructor
  case given => intro v hv; cases hv
  case asked =>
    intro _ before e' after heq hbefore
    cases before with
    | nil =>
      cases heq
      exact ⟨_, hanswers⟩
    | cons first before =>
      cases heq
      refine absurd ⟨version, ?_⟩ (hbefore e (.head _))
      rw [hanswers]
      exact .head _
  case told =>
    intro before e' after heq hlearnt
    cases before with
    | nil =>
      obtain ⟨earlier, he, -⟩ := hlearnt
      cases he
    | cons first before =>
      cases heq
      exact h.given version rfl e' (List.mem_append_right _ (.head _))
  case unlearnt =>
    intro e' he' error' herror'
    rcases List.mem_cons.1 he' with rfl | he'
    · rw [hanswers] at herror'
      cases List.mem_singleton.1 herror'
    · rw [h.given version rfl e' he'] at herror'
      cases herror'
  case suits =>
    intro e' he' x hx call hcall
    have hfirst : firstVersion none (e :: es) = some version := by
      simp only [firstVersion, List.flatMap_cons, hanswers]
      rfl
    refine ⟨version, hfirst, ?_⟩
    rcases List.mem_cons.1 he' with rfl | he'
    · rw [hsaid] at hx
      rcases List.mem_cons.1 hx with rfl | hx
      · cases hcall
      · exact hrest.2 x hx call hcall
    · obtain ⟨v, hv, hsuits⟩ := h.suits e' he' x hx call hcall
      cases hv
      exact hsuits

theorem SettledOnce.cons {known known' : Option String} (hcourse : e.Course known known')
    (h : SettledOnce known' es) : SettledOnce known (e :: es) := by
  cases hcourse with
  | known hat => exact h.cons_known hat
  | unlearnt hsaid hresult => exact h.cons_unlearnt hsaid hresult
  | learnt hsaid hrest => exact h.cons_learnt hsaid hrest

/-- **The kubelet version is settled once.** Over any passes and cleanups, one after the
other, and whatever they are answered: a version that is given is never asked for. Otherwise
it is asked for once in every operation up to the one in which it is told, and never after
that. An operation that is not told it says nothing else, and so writes nothing. And what is
read, written or deleted is of the API generations of the version that was given, or else
told first; all that is asked of the store for that is that it reads objects like their
templates. -/
theorem kubelet_version_settled_once {override : Option String} {metrics : Metrics}
    {es : List Episode} {m' : Memory} (h : Lifetime { kubelet := override, metrics } es m')
    (hlike : ∀ e ∈ es, ReadsLike e.said) : SettledOnce override es := by
  have hrun : ∀ {m es m'}, Lifetime m es m' → (∀ e ∈ es, ReadsLike e.said) →
      SettledOnce m.kubelet es := by
    intro m es m' h hlike
    induction h with
    | nil m => exact settledOnce_nil m.kubelet
    | cons hsaid rest ih =>
      exact (ih fun e he => hlike e (.tail _ he)).cons (course_of_converses hsaid (hlike _ (.head _)))
  exact hrun h hlike

/-! ### Three cleanups -/

/-- No node reports a version yet. -/
def noVersion : Error := .preconditionMissing "no node reports a kubelet version"

/-- A priority class of an old cluster. -/
def oldPriorityClass : Object := .empty "v1.13.4" .priorityClass

/-- The reads of a cleanup of an old cluster, where no webhooks are. -/
def oldReads (priorityClass : Option Object) : List (Exchange outside) :=
  let read (c : Component) (found : Option Object) : Exchange outside :=
    ⟨.store (.get (c.emptyObject "v1.13.4") (c.key default)), .ok found⟩
  [read .validatingWebhook none, read .mutatingWebhook none, read .priorityClass priorityClass]

def untoldCleanup : Episode :=
  ⟨.cleanup default, [⟨.kubeletVersion, .error noVersion⟩], .error noVersion⟩

/-- A cleanup that is told the version, and finds a priority class. -/
def toldCleanup : Episode :=
  ⟨.cleanup default, ⟨.kubeletVersion, .ok "v1.13.4"⟩ :: oldReads (some oldPriorityClass) ++
    [⟨.store (.delete oldPriorityClass), .ok ()⟩], .ok true⟩

def idleCleanup : Episode := ⟨.cleanup default, oldReads none, .ok false⟩

theorem lifetime_three_cleanups :
    Lifetime {} [untoldCleanup, toldCleanup, idleCleanup] { kubelet := some "v1.13.4" } := by
  have huntold : (untoldCleanup.operation.run.run.run {}).Converses untoldCleanup.said
      (untoldCleanup.result, {}) :=
    .ask (.done _)
  have htold : (toldCleanup.operation.run.run.run {}).Converses toldCleanup.said
      (toldCleanup.result, { kubelet := some "v1.13.4" }) :=
    .ask (.ask (.ask (.ask (.ask (.done _)))))
  have hidle : (idleCleanup.operation.run.run.run { kubelet := some "v1.13.4" }).Converses
      idleCleanup.said (idleCleanup.result, { kubelet := some "v1.13.4" }) :=
    .ask (.ask (.ask (.done _)))
  exact .cons huntold (.cons htold (.cons hidle (.nil _)))

theorem readsLike_three_cleanups :
    ∀ e ∈ [untoldCleanup, toldCleanup, idleCleanup], ReadsLike e.said := by
  intro e he template key o ho
  simp only [List.mem_cons, List.not_mem_nil, or_false] at he
  rcases he with rfl | rfl | rfl
  · cases List.mem_singleton.1 ho
  · simp only [toldCleanup, oldReads, List.cons_append, List.nil_append, List.mem_cons,
      List.not_mem_nil, or_false] at ho
    rcases ho with ho | ho | ho | ho | ho <;> cases ho
    exact ⟨rfl, rfl⟩
  · simp only [idleCleanup, oldReads, List.mem_cons, List.not_mem_nil, or_false] at ho
    rcases ho with ho | ho | ho <;> cases ho

/-- Three cleanups of an old cluster, of which the second is told the version. -/
theorem kubelet_version_settled_three_cleanups :
    Lifetime {} [untoldCleanup, toldCleanup, idleCleanup] { kubelet := some "v1.13.4" } ∧
      (∀ e ∈ [untoldCleanup, toldCleanup, idleCleanup], ReadsLike e.said) ∧
      SettledOnce none [untoldCleanup, toldCleanup, idleCleanup] ∧
      firstVersion none [untoldCleanup, toldCleanup, idleCleanup] = some "v1.13.4" :=
  ⟨lifetime_three_cleanups, readsLike_three_cleanups,
    kubelet_version_settled_once lifetime_three_cleanups readsLike_three_cleanups, rfl⟩

end AgentOperator.Dataplane
