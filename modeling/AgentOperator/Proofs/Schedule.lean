import AgentOperator.Proofs.Assembly
import AgentOperator.Proofs.Atomicity
import AgentOperator.Proofs.Calls
import AgentOperator.Proofs.History
import AgentOperator.TlsDirectory

/-!
AgentOperator.Proofs.Schedule — failures that do not say when to try again.

An error may come with a time of its own after which to try again, and most do not
(`Unscheduled`). A pass makes no such error up: if the replies it is given have none, then
it fails without one (`Pass.KeepsSchedule`), whatever fails and whichever failures are
caught on the way. The API server and a directory of certificates never give one
(`unscheduled_answerDataplane`).
-/

namespace AgentOperator

/-- No failure that says when to try again. -/
def Unscheduled {α : Type} (r : Except Error α) : Prop := ∀ e, r = .error e → e.requeue = none

namespace Unscheduled

variable {α β : Type} {r : Except Error α}

theorem ok (a : α) : Unscheduled (.ok a) := fun _ h => by cases h

theorem error {e : Error} (h : e.requeue = none) : Unscheduled (.error e : Except Error α) := by
  rintro _ ⟨⟩
  exact h

theorem fault (f : Fault) : Unscheduled (.error (f : Error) : Except Error α) := error rfl

theorem bind {k : α → Except Error β} (h : Unscheduled r) (hk : ∀ a, Unscheduled (k a)) :
    Unscheduled (r >>= k) := by
  cases r with
  | error e => exact error (h e rfl)
  | ok a => exact hk a

theorem map {f : α → β} (h : Unscheduled r) : Unscheduled (f <$> r) := by
  cases r with
  | error e => exact error (h e rfl)
  | ok a => exact ok (f a)

end Unscheduled

/-! ## Objects and components -/

theorem unscheduled_orUnreadable {α : Type} (r : Except WireError α) :
    Unscheduled (orUnreadable r) := by
  cases r with
  | ok a => exact .ok a
  | error e => exact .fault _

theorem Kube.Object.unscheduled_decodeLike (template : Object) (j : Json) :
    Unscheduled (template.decodeLike j) := by
  have hwebhooks (kind : WebhookKind) (version : AdmissionVersion) :
      Unscheduled (decodeWebhooks kind version j) := by
    unfold decodeWebhooks
    dsimp only
    split
    · split
      · exact unscheduled_orUnreadable _
      · exact .fault _
    · exact unscheduled_orUnreadable _
  cases template with
  | validatingWebhookConfiguration t => exact (hwebhooks .validating t.version).map
  | mutatingWebhookConfiguration t => exact (hwebhooks .mutating t.version).map
  | _ => exact (unscheduled_orUnreadable _).map

namespace TlsMaterial

theorem unscheduled_ofSecretData (data : Dict Bytes) : Unscheduled (ofSecretData data) := by
  have hentry (key : String) : Unscheduled (entry data key) := by
    unfold entry
    split
    · exact .ok _
    · exact .error rfl
  unfold ofSecretData
  refine (hentry _).bind fun _ => (hentry _).bind fun _ => ?_
  exact (hentry _).bind fun _ => (hentry _).bind fun _ => .ok _

end TlsMaterial

theorem TlsDirectory.unscheduled_issue (d : TlsDirectory) (service : Kube.ObjectKey) :
    Unscheduled (d.issue service) := by
  have hmaterial (file : String) : Unscheduled (d.material service.name file) := by
    unfold material
    dsimp only
    split
    · exact .ok _
    · exact .error rfl
    · exact .error rfl
  unfold issue
  refine (hmaterial _).bind fun _ => (hmaterial _).bind fun _ => ?_
  exact (hmaterial _).bind fun _ => (hmaterial _).bind fun _ => .ok _

namespace Dataplane

open Kube (Kind Object ObjectKey)

variable {c : Component} {s : Surroundings} {spec : Agent.Spec} {opts : ApplyOptions}
  {log : List (Exchange outside)} {o : Object} {kubelet : String} {cs : List Component}

/-- Only the issuer of certificates can make a component's refusal say when to try
again. -/
theorem Component.unscheduled_mutate (h : Unscheduled s.issued) :
    Unscheduled (c.mutate s spec o) := by
  intro e he
  by_cases hkind : o.kind = c.kind
  · have hrefusal := (mutate_eq_error_iff hkind).1 he
    unfold refusal at hrefusal
    dsimp only at hrefusal
    split at hrefusal
    case h_1 =>
      unfold Surroundings.requiredRegistry at hrefusal
      cases hregistry : s.registry <;> rw [hregistry] at hrefusal <;> cases hrefusal
      rfl
    case h_2 =>
      cases hissued : s.issued <;> rw [hissued] at hrefusal <;> cases hrefusal
      exact h _ hissued
    case h_5 => cases hrefusal
    all_goals
      unfold Surroundings.requiredTls at hrefusal
      cases htls : s.tls <;> rw [htls] at hrefusal <;> cases hrefusal
      rfl
  · rw [mutate_of_kind_ne hkind] at he
    cases he
    rfl

theorem unscheduled_asSecret (o : Object) : Unscheduled o.asSecret := by
  cases o <;> first | exact .ok _ | exact .error rfl

theorem unscheduled_readyReplicas (o : Object) : Unscheduled (readyReplicas o) := by
  have hdeployment : Unscheduled o.asDeployment := by
    cases o <;> first | exact .ok _ | exact .error rfl
  exact hdeployment.bind fun d => .ok _

/-! ## Replies -/

/-- No reply is a failure that says when to try again. -/
def Unhurried (log : List (Exchange outside)) : Prop :=
  ∀ e ∈ log, Unscheduled (e.reply : Except Error e.request.Result)

theorem Unhurried.of_subset {part : List (Exchange outside)} (h : Unhurried log)
    (hsub : part ⊆ log) : Unhurried part :=
  fun e he => h e (hsub he)

/-- With such replies the task does not fail with such an error. -/
def Task.KeepsSchedule {α : Type} (t : Task α) : Prop :=
  ∀ log r, t.run.Converses log r → Unhurried log → Unscheduled r

theorem Task.keepsSchedule_ask (r : Request) : (ask r).KeepsSchedule := by
  intro log reply h hlog
  cases converses_ask_iff.1 h
  exact hlog _ (.head _)

theorem Task.keepsSchedule_ofExcept {α : Type} {r : Except Error α} (h : Unscheduled r) :
    (ofExcept r).KeepsSchedule := by
  intro log r' hconverses _
  obtain ⟨-, rfl⟩ := converses_ofExcept_iff.1 hconverses
  exact h

theorem Component.Makes.unscheduled {r : Except Error Object} (h : c.Makes s spec o log r)
    (hlog : Unhurried log) (hissued : Unscheduled s.issued) : Unscheduled r := by
  cases h with
  | unasked hc => exact unscheduled_mutate hissued
  | refused hc hkind => exact .error rfl
  | asked hc hkind issued =>
    have hreply : Unscheduled issued := hlog _ (.head _)
    exact hreply.bind fun tls => unscheduled_mutate (.ok tls)

theorem Component.Prepares.unscheduled {found : Option Object} {r : Except Error Object}
    (h : c.Prepares s spec opts found log r) (hlog : Unhurried log)
    (hissued : Unscheduled s.issued) (hopts : ∀ o, Unscheduled (opts.own o)) : Unscheduled r := by
  obtain ⟨made, hmakes, rfl⟩ := h
  exact (hmakes.unscheduled hlog hissued).bind fun o => hopts _

/-- What a step was told is all that can make it say when to try again. -/
theorem keepsSchedule_apply (hissued : Unscheduled s.issued)
    (hopts : ∀ o, Unscheduled (opts.own o)) : (apply c s spec opts).KeepsSchedule := by
  intro log r h hlog
  obtain ⟨reply, rest, rfl, happlies⟩ := applies_of_converses h
  have hreply : Unscheduled reply := hlog _ (.head _)
  have hrest : Unhurried rest := hlog.of_subset (List.subset_cons_self _ _)
  cases happlies with
  | unread e => exact .error (hreply e rfl)
  | kept honly => exact .ok _
  | same hprepares => exact .ok _
  | refused hprepares => exact .error (hprepares.unscheduled hrest hissued hopts _ rfl)
  | @written found o asked honly hne hprepares w =>
    have hw : Unscheduled w := by
      have hlast := hrest (writing found o w) (List.mem_append_right _ (List.mem_singleton_self _))
      cases found with
      | none => exact hlast
      | some observed => exact hlast
    exact hw.map

theorem keepsSchedule_deleteIfExists : (deleteIfExists c kubelet spec).KeepsSchedule := by
  intro log r h hlog
  obtain ⟨found, hdeletion⟩ := oneDeletion_of_converses h
  rcases found with e | _ | o
  · obtain ⟨rfl, rfl⟩ := hdeletion.absent fun o ho => by cases ho
    exact (hlog _ (.head _)).map
  · obtain ⟨rfl, rfl⟩ := hdeletion.absent fun o ho => by cases ho
    exact .ok _
  · obtain ⟨reply, rfl, rfl⟩ := hdeletion.present o rfl
    have hreply : Unscheduled reply := hlog _ (.tail _ (.head _))
    exact hreply.map

/-! ## Passes -/

namespace Pass

variable {α β : Type}

/-- With such replies the pass does not fail with such an error. -/
def KeepsSchedule (p : Pass α) : Prop :=
  ∀ m log r m', (p.run.run m).Converses log (r, m') → Unhurried log → Unscheduled r

theorem KeepsSchedule.pure (a : α) : KeepsSchedule (pure a) := by
  intro m log r m' h _
  obtain ⟨-, rfl, -⟩ := Deed.converses_pure_iff.1 h
  exact .ok a

theorem KeepsSchedule.bind {p : Pass α} {k : α → Pass β} (hp : KeepsSchedule p)
    (hk : ∀ a, KeepsSchedule (k a)) : KeepsSchedule (p >>= k) := by
  intro m log r m' h hlog
  rcases Deed.converses_bind_iff.1 h with ⟨e, hstop, rfl⟩ | ⟨before, after, a, m₁, rfl, -, hnext⟩
  · exact .error (hp m log _ m' hstop hlog e rfl)
  · exact hk a m₁ after r m' hnext (hlog.of_subset (List.subset_append_right _ _))

theorem KeepsSchedule.ofTask {t : Task α} (h : t.KeepsSchedule) : KeepsSchedule (ofTask t) := by
  intro m log r m' hconverses hlog
  obtain ⟨before, after, r', rfl, hbefore, hafter⟩ := Script.converses_bind_iff.1 hconverses
  obtain ⟨rfl, heq⟩ := Script.converses_pure_iff.1 hafter
  cases heq
  exact h before r hbefore (hlog.of_subset (List.subset_append_left _ _))

/-- An error that is caught is one of the first part. -/
theorem KeepsSchedule.tryCatch {p : Pass α} {k : Error → Pass α} (hp : KeepsSchedule p)
    (hk : ∀ e, e.requeue = none → KeepsSchedule (k e)) :
    KeepsSchedule (MonadExcept.tryCatch p k) := by
  intro m log r m' h hlog
  rw [tryCatch_eq] at h
  obtain ⟨before, after, ⟨r₁, m₁⟩, rfl, hbefore, hafter⟩ := Script.converses_bind_iff.1 h
  have hfirst := hp m before r₁ m₁ hbefore (hlog.of_subset (List.subset_append_left _ _))
  cases r₁ with
  | ok a =>
    obtain ⟨-, heq⟩ := Script.converses_pure_iff.1 hafter
    cases heq
    exact .ok a
  | error e =>
    exact hk e (hfirst e rfl) m₁ after r m' hafter
      (hlog.of_subset (List.subset_append_right _ _))

theorem keepsSchedule_throw {e : Error} (h : e.requeue = none) :
    KeepsSchedule (throw e : Pass α) := by
  intro m log r m' hconverses _
  obtain ⟨-, heq⟩ := Script.converses_pure_iff.1 hconverses
  cases heq
  exact .error h

theorem keepsSchedule_modify (f : Memory → Memory) : KeepsSchedule (modify f) := by
  intro m log r m' h _
  obtain ⟨-, heq⟩ := Script.converses_pure_iff.1 h
  cases heq
  exact .ok _

theorem keepsSchedule_kubeletVersion : KeepsSchedule kubeletVersion := by
  have hget : KeepsSchedule (get : Pass Memory) := by
    intro m log r m' h _
    obtain ⟨-, heq⟩ := Script.converses_pure_iff.1 h
    cases heq
    exact .ok _
  refine hget.bind fun memory => ?_
  split
  · exact .pure _
  · refine KeepsSchedule.bind (.ofTask (Task.keepsSchedule_ask _)) fun version => ?_
    exact (keepsSchedule_modify _).bind fun _ => .pure _

theorem keepsSchedule_applied (hissued : Unscheduled s.issued)
    (hopts : ∀ o, Unscheduled (opts.own o)) : KeepsSchedule (applied c s spec opts) := by
  refine KeepsSchedule.bind (.ofTask (keepsSchedule_apply hissued hopts)) fun a => ?_
  split
  · exact (keepsSchedule_modify _).bind fun _ => .pure _
  · exact .pure _

theorem keepsSchedule_deleteAll : KeepsSchedule (deleteAll kubelet spec cs) := by
  induction cs with
  | nil => exact .pure _
  | cons c cs ih =>
    exact KeepsSchedule.bind (.ofTask keepsSchedule_deleteIfExists) fun _ => ih.bind fun _ => .pure _

/-- All work that is put together of steps keeps to the schedule. -/
theorem Assembled.keepsSchedule {p : Pass α} {setOwner : Option OwnerSetter}
    (h : Assembled kubelet spec setOwner p)
    (howner : ∀ o, Unscheduled (({ setOwner } : ApplyOptions).own o)) : KeepsSchedule p := by
  induction h with
  | pure a => exact .pure a
  | bind hp hk ihp ihk => exact ihp.bind ihk
  | asSecret o => exact .ofTask (Task.keepsSchedule_ofExcept (unscheduled_asSecret o))
  | readyReplicas o => exact .ofTask (Task.keepsSchedule_ofExcept (unscheduled_readyReplicas o))
  | ofSecretData stored =>
    exact .ofTask (Task.keepsSchedule_ofExcept (TlsMaterial.unscheduled_ofSecretData stored))
  | nodeCount => exact .ofTask (Task.keepsSchedule_ask _)
  | @applied c s opts hkubelet hissued hopts =>
    apply keepsSchedule_applied
    · rw [hissued]
      exact .error rfl
    · intro o
      rw [ApplyOptions.own, hopts]
      exact howner o
  | deleteIfExists c => exact .ofTask keepsSchedule_deleteIfExists
  | orPullWebhooks hp ih =>
    exact ih.tryCatch fun _ he => keepsSchedule_deleteAll.bind fun _ => keepsSchedule_throw he

end Pass

open Pass (KeepsSchedule)

/-- **A pass keeps to the schedule.** If no reply to it is a failure that says when to try
again, and the owner setter makes no such failure up, then it does not fail with one. -/
theorem keepsSchedule_applyDesiredState {registry : RegistryCredentials}
    {setOwner : Option OwnerSetter}
    (howner : ∀ o, Unscheduled (({ setOwner } : ApplyOptions).own o)) :
    KeepsSchedule (applyDesiredState spec registry setOwner) := by
  rw [Pass.applyDesiredState_eq]
  apply Pass.keepsSchedule_kubeletVersion.bind
  intro kubelet
  exact (Pass.assembled_applyKnown registry).keepsSchedule howner

end Dataplane

/-! ## The API server -/

namespace Api

variable {α : Type} {log : List (Exchange outside)}

theorem unscheduled_orApiFault {call : Call α} {r : Except Error α}
    (h : (orApiFault call).Converses log r) : Unscheduled r := by
  obtain ⟨before, after, result, rfl, -, hafter⟩ := Script.converses_bind_iff.1 h
  cases result with
  | ok a =>
    obtain ⟨-, rfl⟩ := Script.converses_pure_iff.1 hafter
    exact .ok a
  | error f =>
    obtain ⟨-, rfl⟩ := Script.converses_pure_iff.1 hafter
    exact .fault _

theorem unscheduled_kubeletVersion {r : Except Error String}
    (h : kubeletVersion.Converses log r) : Unscheduled r := by
  obtain ⟨before, after, result, rfl, hlist, hafter⟩ := Script.converses_bind_iff.1 h
  cases result with
  | error e =>
    obtain ⟨-, rfl⟩ := Script.converses_pure_iff.1 hafter
    exact .error (unscheduled_orApiFault hlist e rfl)
  | ok found =>
    dsimp only at hafter
    split at hafter
    · obtain ⟨-, rfl⟩ := Script.converses_pure_iff.1 hafter
      exact .ok _
    · obtain ⟨-, rfl⟩ := Script.converses_pure_iff.1 hafter
      exact .error rfl

theorem unscheduled_nodeCount {r : Except Error UInt64} (h : nodeCount.Converses log r) :
    Unscheduled r := by
  obtain ⟨before, after, result, rfl, hlist, hafter⟩ := Script.converses_bind_iff.1 h
  obtain ⟨-, rfl⟩ := Script.converses_pure_iff.1 hafter
  exact (unscheduled_orApiFault hlist).map

theorem unscheduled_storeWrite {c : Store.Call} {call : Call α} {r : Except Error Unit}
    (h : (storeWrite c call).Converses log r) : Unscheduled r := by
  obtain ⟨before, after, result, rfl, -, hafter⟩ := Script.converses_bind_iff.1 h
  cases result with
  | ok a =>
    obtain ⟨-, rfl⟩ := Script.converses_pure_iff.1 hafter
    exact .ok ()
  | error f =>
    obtain ⟨-, rfl⟩ := Script.converses_pure_iff.1 hafter
    exact .fault _

theorem unscheduled_answerStore {c : Store.Call} {r : Except Error c.Result}
    (h : (answerStore c).Converses log r) : Unscheduled r := by
  cases c with
  | create o => exact unscheduled_storeWrite h
  | update o => exact unscheduled_storeWrite h
  | delete o => exact unscheduled_storeWrite h
  | get template key =>
    obtain ⟨before, after, result, rfl, -, hafter⟩ := Script.converses_bind_iff.1 h
    cases result with
    | ok j =>
      obtain ⟨-, rfl⟩ := Script.converses_pure_iff.1 hafter
      exact (template.unscheduled_decodeLike j).map
    | error f =>
      dsimp only at hafter
      split at hafter
      · obtain ⟨-, rfl⟩ := Script.converses_pure_iff.1 hafter
        exact .ok _
      · obtain ⟨-, rfl⟩ := Script.converses_pure_iff.1 hafter
        exact .fault _

end Api

namespace Controller

variable {α : Type} {log : List (Exchange outside)} {m m' : Dataplane.Memory}

/-- Whoever issues certificates does not say when to ask again. -/
def IssuesUnscheduled (log : List (Exchange outside)) : Prop :=
  ∀ service reply, ⟨.issueTls service, reply⟩ ∈ log → Unscheduled reply

/-- A directory with certificates never says so. -/
theorem issuesUnscheduled_of_directory
    (h : ∀ service reply, ⟨.issueTls service, reply⟩ ∈ log →
      ∃ d : TlsDirectory, reply = d.issue service) : IssuesUnscheduled log := by
  intro service reply hreply
  obtain ⟨d, rfl⟩ := h service reply hreply
  exact d.unscheduled_issue service

theorem unscheduled_answerDataplane {q : Dataplane.Request} {r : Except Error q.Result}
    (h : (answerDataplane q).Converses log r) (hissues : IssuesUnscheduled log) :
    Unscheduled r := by
  cases q with
  | store c =>
    obtain ⟨asked, hasked, -⟩ := converses_ofApi_iff.1 h
    exact Api.unscheduled_answerStore hasked
  | kubeletVersion =>
    obtain ⟨asked, hasked, -⟩ := converses_ofApi_iff.1 h
    exact Api.unscheduled_kubeletVersion hasked
  | nodeCount =>
    obtain ⟨asked, hasked, -⟩ := converses_ofApi_iff.1 h
    exact Api.unscheduled_nodeCount hasked
  | issueTls service =>
    cases Script.converses_request_iff.1 h
    exact hissues service r (.head _)

/-- Work on the dataplane keeps to the schedule as it does on its own. -/
theorem unscheduled_ofPass {p : Dataplane.Pass α} (hp : p.KeepsSchedule) {r : Except Error α}
    (h : ((Work.ofPass p).run.run m).Converses log (r, m')) (hissues : IssuesUnscheduled log) :
    Unscheduled r := by
  obtain ⟨asked, hasked, hparts⟩ := Script.Converses.of_run (s := p.run.run m) h
  refine hp m asked r m' hasked fun e he => ?_
  obtain ⟨part, hsub, hpart⟩ := hparts e he
  exact unscheduled_answerDataplane hpart fun service reply hreply =>
    hissues service reply (hsub hreply)

end Controller

end AgentOperator
