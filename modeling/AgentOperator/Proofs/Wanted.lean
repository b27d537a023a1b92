import AgentOperator.Controller.Ownership
import AgentOperator.Proofs.Applying
import AgentOperator.Proofs.Tidy

/-!
AgentOperator.Proofs.Wanted — what a component asks for is asked for again.

An object that is written was changed by its component, put under its key if it
was made anew, and given an owner. Name, namespace and owner are nothing the
component looks at, and labels and annotations are nothing the owner depends on,
so none of the three undoes what another did: read back, the object is asked for
as it is (`wanted_again`).
-/

namespace AgentOperator.Dataplane

open Kube (Deployment Kind Object ObjectKey ObjectMeta)
open Workload

/-! ## Metadata -/

@[simp] theorem metadata_withMetadata (o : Object) (m : ObjectMeta) :
    (o.withMetadata m).metadata = m := by
  cases o <;> rfl

@[simp] theorem withMetadata_withMetadata (o : Object) (m m' : ObjectMeta) :
    (o.withMetadata m).withMetadata m' = o.withMetadata m' := by
  cases o <;> rfl

@[simp] theorem withMetadata_metadata (o : Object) : o.withMetadata o.metadata = o := by
  cases o <;> rfl

theorem known_metadata {o : Object} {kubelet : String} (h : o.Known kubelet) :
    o.metadata.Known := by
  cases o with
  | deployment d => exact h.metadata
  | daemonSet d => exact h.metadata
  | service s => exact h.metadata
  | secret s => exact h
  | configMap m => exact h
  | priorityClass p => exact h.2
  | validatingWebhookConfiguration c => exact h.2.metadata
  | mutatingWebhookConfiguration c => exact h.2.metadata

theorem known_withMetadata {o : Object} {kubelet : String} {m : ObjectMeta} (h : o.Known kubelet)
    (hm : m.Known) : (o.withMetadata m).Known kubelet := by
  cases o with
  | deployment d => exact ⟨hm, h.spec, h.status⟩
  | daemonSet d => exact ⟨hm, h.spec, h.status⟩
  | service s => exact ⟨hm, h.status⟩
  | secret s => exact hm
  | configMap m => exact hm
  | priorityClass p => exact ⟨h.1, hm⟩
  | validatingWebhookConfiguration c => exact ⟨h.1, hm, h.2.webhooks⟩
  | mutatingWebhookConfiguration c => exact ⟨h.1, hm, h.2.webhooks⟩

/-- Metadata does not make an object stray. -/
theorem tidy_withMetadata {c : Component} {o : Object} (h : c.Tidy o) (m : ObjectMeta) :
    c.Tidy (o.withMetadata m) := by
  cases o with
  | deployment d => exact h
  | daemonSet d => exact ⟨h.volumes, h.mounts⟩
  | _ => exact trivial

/-- The metadata with the labels and annotations of other metadata. -/
def marked (m marks : ObjectMeta) : ObjectMeta :=
  { m with labels := marks.labels, annotations := marks.annotations }

theorem DeploymentPlan.apply_withMetadata (p : DeploymentPlan) (spec : Agent.Spec) (d : Deployment)
    {m : ObjectMeta} (hannotations : m.annotations = d.metadata.annotations) :
    p.apply spec { d with metadata := m }
      = { p.apply spec d with metadata := marked m (p.apply spec d).metadata } := by
  rw [apply_eq, apply_eq]
  simp only [Labelled.settled, Labelled.withLabels, Labelled.withAnnotations, marked, hannotations]
  rfl

theorem ServicePlan.apply_withMetadata (p : ServicePlan) (s : Kube.Service) {m : ObjectMeta}
    (hannotations : m.annotations = s.metadata.annotations) :
    p.apply { s with metadata := m } = { p.apply s with metadata := marked m (p.apply s).metadata } := by
  simp only [apply, marked, ← hannotations]

theorem withNodeAgent_withMetadata (spec : Agent.Spec) (d : Kube.DaemonSet) {m : ObjectMeta}
    (hannotations : m.annotations = d.metadata.annotations) :
    withNodeAgent spec { d with metadata := m }
      = { withNodeAgent spec d with metadata := marked m (withNodeAgent spec d).metadata } := by
  rw [withNodeAgent_eq, withNodeAgent_eq]
  simp only [Labelled.settled, Labelled.withLabels, Labelled.withAnnotations, marked, hannotations]
  rfl

theorem withValidatingEntries_withMetadata {kubelet : String} {tls : TlsMaterial}
    {spec : Agent.Spec} {c : Kube.WebhookConfiguration} {m : ObjectMeta}
    (hannotations : m.annotations = c.metadata.annotations) :
    withValidatingEntries kubelet tls spec { c with metadata := m }
      = { withValidatingEntries kubelet tls spec c with
          metadata := marked m (withValidatingEntries kubelet tls spec c).metadata } := by
  simp only [withValidatingEntries, withEntries_eq, withConfigurationLabels, marked, ← hannotations]

theorem withMutatingEntries_withMetadata {kubelet : String} {tls : TlsMaterial}
    {spec : Agent.Spec} {c : Kube.WebhookConfiguration} {m : ObjectMeta}
    (hannotations : m.annotations = c.metadata.annotations) :
    withMutatingEntries kubelet tls spec { c with metadata := m }
      = { withMutatingEntries kubelet tls spec c with
          metadata := marked m (withMutatingEntries kubelet tls spec c).metadata } := by
  simp only [withMutatingEntries, withEntries_eq, withConfigurationLabels, marked, ← hannotations]

theorem marked_self {m marks : ObjectMeta} (hlabels : m.labels = marks.labels)
    (hannotations : m.annotations = marks.annotations) : marked m marks = m := by
  rw [marked, ← hlabels, ← hannotations]

/-- A component looks at no metadata but labels and annotations. -/
theorem Component.Change.withMetadata {c : Component} {s : Surroundings} {spec : Agent.Spec}
    {o o₁ : Object} (h : Component.Change s spec c o o₁) {m : ObjectMeta}
    (hlabels : m.labels = o.metadata.labels) (hannotations : m.annotations = o.metadata.annotations) :
    Component.Change s spec c (o.withMetadata m) (o₁.withMetadata (marked m o₁.metadata)) := by
  have hsame := marked_self hlabels hannotations
  cases h with
  | configMap d =>
    show Component.Change s spec _ _ (Object.withMetadata _ (marked m d.metadata))
    rw [show marked m d.metadata = m from hsame]
    exact .configMap { d with metadata := m }
  | registrySecret d hr =>
    show Component.Change s spec _ _ (Object.withMetadata _ (marked m d.metadata))
    rw [show marked m d.metadata = m from hsame]
    exact .registrySecret { d with metadata := m } hr
  | priorityClass d =>
    show Component.Change s spec _ _ (Object.withMetadata _ (marked m d.metadata))
    rw [show marked m d.metadata = m from hsame]
    exact .priorityClass { d with metadata := m }
  | enforcerTls d htls =>
    show Component.Change s spec _ _ (Object.withMetadata _ (marked m d.metadata))
    rw [show marked m d.metadata = m from hsame]
    exact .enforcerTls { d with metadata := m } htls
  | validatingWebhook d htls =>
    have hchange : Component.Change s spec .validatingWebhook
        (.validatingWebhookConfiguration { d with metadata := m }) _ := .validatingWebhook _ htls
    rwa [withValidatingEntries_withMetadata hannotations] at hchange
  | mutatingWebhook d htls =>
    have hchange : Component.Change s spec .mutatingWebhook
        (.mutatingWebhookConfiguration { d with metadata := m }) _ := .mutatingWebhook _ htls
    rwa [withMutatingEntries_withMetadata hannotations] at hchange
  | deployment d hp =>
    have hchange : Component.Change s spec c (.deployment { d with metadata := m }) _ :=
      .deployment _ hp
    rwa [DeploymentPlan.apply_withMetadata _ spec d hannotations] at hchange
  | service d hp =>
    have hchange : Component.Change s spec c (.service { d with metadata := m }) _ :=
      .service _ hp
    rwa [ServicePlan.apply_withMetadata _ d hannotations] at hchange
  | nodeAgent d =>
    have hchange : Component.Change s spec .nodeAgent (.daemonSet { d with metadata := m }) _ :=
      .nodeAgent _
    rwa [withNodeAgent_withMetadata spec d hannotations] at hchange

/-- A component leaves the key of an object alone. -/
theorem Component.Change.key_eq {c : Component} {s : Surroundings} {spec : Agent.Spec}
    {o o₁ : Object} (h : Component.Change s spec c o o₁) : o₁.key = o.key := by
  cases h with
  | validatingWebhook d htls =>
    simp only [Object.key, Object.metadata, withValidatingEntries, withEntries_eq,
      withConfigurationLabels]
  | mutatingWebhook d htls =>
    simp only [Object.key, Object.metadata, withMutatingEntries, withEntries_eq,
      withConfigurationLabels]
  | _ => rfl

/-! ## Owners -/

/-- A setter that writes nothing but owner references, and is content with what
it wrote. -/
structure OwnerSetter.Proper (setter : OwnerSetter) : Prop where
  rest : ∀ {m m'}, setter m = .ok m' → m' = { m with ownerReferences := m'.ownerReferences }
  again : ∀ {m m'}, setter m = .ok m' → setter m' = .ok m'

def ApplyOptions.Proper (opts : ApplyOptions) : Prop :=
  ∀ setter, opts.setOwner = some setter → OwnerSetter.Proper setter

theorem own_rest {opts : ApplyOptions} (hopts : opts.Proper) {o o' : Object}
    (h : opts.own o = .ok o') :
    ∃ refs, o' = o.withMetadata { o.metadata with ownerReferences := refs } := by
  unfold ApplyOptions.own at h
  split at h
  · cases h
    exact ⟨o.metadata.ownerReferences, (withMetadata_metadata o).symm⟩
  · rename_i setter hsetter
    obtain ⟨m, hm, rfl⟩ := Except.map_eq_ok.1 h
    have hrest := (hopts setter hsetter).rest hm
    exact ⟨m.ownerReferences, congrArg o.withMetadata hrest⟩

theorem own_again {opts : ApplyOptions} (hopts : opts.Proper) {o o' : Object}
    (h : opts.own o = .ok o') : opts.own o' = .ok o' := by
  unfold ApplyOptions.own at h ⊢
  split at h
  · rfl
  · rename_i setter hsetter
    obtain ⟨m, hm, rfl⟩ := Except.map_eq_ok.1 h
    have hagain := (hopts setter hsetter).again hm
    refine Except.map_eq_ok.2 ⟨m, ?_, withMetadata_withMetadata o m m⟩
    rwa [metadata_withMetadata]

/-! ## Wanted objects -/

variable {x : Setting} {c : Component} {s : Surroundings} {spec : Agent.Spec} {opts : ApplyOptions}
  {found : Option Object} {o : Object} {kubelet : String}

/-- The key of what is wanted: the component's, or the one of the object that
was found. -/
def wantedKey (c : Component) (spec : Agent.Spec) (found : Option Object) : ObjectKey :=
  (found.map Object.key).getD (c.key spec)

/-- What went into an object that is wanted. -/
theorem wanted_eq_ok (hopts : opts.Proper) (h : x.wanted c s spec opts found = .ok o) :
    ∃ s' o₁ name space refs, x.surroundings c s spec = .ok s' ∧
      Component.Change s' spec c (found.getD (c.emptyObject s.kubelet)) o₁ ∧
      o = o₁.withMetadata
        { o₁.metadata with name, «namespace» := space, ownerReferences := refs } ∧
      (⟨space, name.getD ""⟩ : ObjectKey) = wantedKey c spec found ∧ opts.own o = .ok o := by
  obtain ⟨s', hs', h⟩ := Except.bind_eq_ok.1 h
  cases found with
  | none =>
    obtain ⟨o₁, hmutate, hown⟩ := Except.bind_eq_ok.1 h
    obtain ⟨refs, rfl⟩ := own_rest hopts hown
    refine ⟨s', o₁, some (c.key spec).name, (c.key spec).namespace, refs, hs',
      Component.change_of_mutate hmutate, ?_, rfl, own_again hopts hown⟩
    rw [named, withMetadata_withMetadata, metadata_withMetadata]
  | some observed =>
    obtain ⟨o₁, hmutate, hown⟩ := Except.bind_eq_ok.1 h
    obtain ⟨refs, rfl⟩ := own_rest hopts hown
    have hchange := Component.change_of_mutate hmutate
    refine ⟨s', o₁, o₁.metadata.name, o₁.metadata.namespace, refs, hs', hchange, rfl, ?_,
      own_again hopts hown⟩
    exact hchange.key_eq

/-- What is wanted has the component's key, or the one it was found under. -/
theorem wanted_key (hopts : opts.Proper) (h : x.wanted c s spec opts found = .ok o) :
    o.key = wantedKey c spec found := by
  obtain ⟨s', o₁, name, space, refs, -, -, rfl, hkey, -⟩ := wanted_eq_ok hopts h
  rw [Object.key, metadata_withMetadata]
  exact hkey

theorem wanted_known (hopts : opts.Proper) (h : x.wanted c s spec opts found = .ok o)
    (hfound : ∀ observed, found = some observed → observed.Known s.kubelet) :
    o.Known s.kubelet := by
  obtain ⟨s', o₁, name, space, refs, -, hchange, rfl, -, -⟩ := wanted_eq_ok hopts h
  have hsource : (found.getD (c.emptyObject s.kubelet)).Known s.kubelet := by
    cases found with
    | none => exact known_emptyObject c s.kubelet
    | some observed => exact hfound observed rfl
  have hknown := hchange.known hsource
  have hmeta := known_metadata hknown
  exact known_withMetadata hknown ⟨hmeta.deletion, hmeta.rest⟩

theorem wanted_tidy (hopts : opts.Proper) (h : x.wanted c s spec opts found = .ok o)
    (hfound : ∀ observed, found = some observed → c.Tidy observed) : c.Tidy o := by
  obtain ⟨s', o₁, name, space, refs, -, hchange, rfl, -, -⟩ := wanted_eq_ok hopts h
  have hsource : c.Tidy (found.getD (c.emptyObject s.kubelet)) := by
    cases found with
    | none => exact tidy_emptyObject c s.kubelet
    | some observed => exact hfound observed rfl
  exact tidy_withMetadata (hchange.tidy hsource) _

/-- What is wanted is asked for again as it is, unless it was made of a stray
object. -/
theorem wanted_again (hopts : opts.Proper) (h : x.wanted c s spec opts found = .ok o)
    (hfound : ∀ observed, found = some observed → c.Tidy observed) :
    x.wanted c s spec opts (some o) = .ok o := by
  obtain ⟨s', o₁, name, space, refs, hs', hchange, rfl, -, hown⟩ := wanted_eq_ok hopts h
  have hsource : c.Tidy (found.getD (c.emptyObject s.kubelet)) := by
    cases found with
    | none => exact tidy_emptyObject c s.kubelet
    | some observed => exact hfound observed rfl
  obtain ⟨o₂, hagain, hsame⟩ := hchange.again
  cases hsame.2 (hsource.not_stray s' spec)
  let m := { o₁.metadata with name, «namespace» := space, ownerReferences := refs }
  have hkept : Component.Change s' spec c (o₁.withMetadata m)
      (o₁.withMetadata (marked m o₁.metadata)) := hagain.withMetadata rfl rfl
  have hmutate : c.mutate s' spec (o₁.withMetadata m) = .ok (o₁.withMetadata m) := hkept.mutate
  exact Except.bind_eq_ok.2 ⟨s', hs', Except.bind_eq_ok.2 ⟨_, hmutate, hown⟩⟩

/-- Only the certificate of the enforcer is asked for from outside. -/
theorem wanted_congr {y : Setting} (h : c ≠ .enforcerTls) :
    y.wanted c s spec opts found = x.wanted c s spec opts found := by
  cases c <;> first | exact absurd rfl h | rfl

end AgentOperator.Dataplane

/-! ## The owner of an agent's objects -/

namespace AgentOperator.Controller

open Kube (ObjectMeta OwnerReference)

/-- Once an owner is the only controller, it stays where it is. -/
theorem upsert_owner_eq_self (owner : OwnerReference) {references : List OwnerReference}
    (h : references.find? (fun r => decide (r.uid = owner.uid)) = some owner) :
    Keyed.upsert (fun r => decide (r.uid = owner.uid)) owner (fun _ => owner) references
      = references := by
  induction references with
  | nil => cases h
  | cons r rs ih =>
    by_cases hr : r.uid = owner.uid
    · simp only [List.find?_cons, hr, decide_true, Option.some.injEq] at h
      simp [Keyed.upsert, h]
    · simp only [List.find?_cons, hr, decide_false] at h
      simp [Keyed.upsert, hr, ih h]

theorem find?_withController (owner : OwnerReference) (references : List OwnerReference) :
    (withController owner references).find? (fun r => decide (r.uid = owner.uid)) = some owner := by
  unfold withController
  induction references.filter fun r => decide (r.uid = owner.uid ∨ r.controller ≠ some true) with
  | nil => simp [Keyed.upsert]
  | cons r rs ih =>
    by_cases hr : r.uid = owner.uid
    · simp [Keyed.upsert, hr]
    · simpa [Keyed.upsert, hr] using ih

theorem mem_withController {owner r : OwnerReference} {references : List OwnerReference}
    (h : r ∈ withController owner references) : r.uid = owner.uid ∨ r.controller ≠ some true := by
  unfold withController at h
  have hfilter : ∀ q ∈ references.filter fun r => decide (r.uid = owner.uid ∨ r.controller ≠ some true),
      q.uid = owner.uid ∨ q.controller ≠ some true := by
    intro q hq
    simpa using (List.mem_filter.1 hq).2
  rcases Keyed.mem_upsert h with h | rfl
  · exact hfilter r h
  · exact .inl rfl

theorem withController_withController (owner : OwnerReference) (references : List OwnerReference) :
    withController owner (withController owner references) = withController owner references := by
  have hkept : (withController owner references).filter
      (fun r => decide (r.uid = owner.uid ∨ r.controller ≠ some true))
        = withController owner references := by
    refine List.filter_eq_self.2 fun r hr => ?_
    simpa using mem_withController hr
  rw [withController, hkept]
  exact upsert_owner_eq_self owner (find?_withController owner references)

/-- The agent's references are the only thing its owner setter writes. -/
theorem ownerSetter_proper {a : Agent.Resource} {spec : Agent.Spec}
    {setter : Dataplane.OwnerSetter} (h : ownerSetter a spec = .ok setter) :
    Dataplane.OwnerSetter.Proper setter := by
  unfold ownerSetter at h
  split at h
  · cases h
  · rename_i owner howner
    cases h
    refine ⟨fun {m m'} hm => ?_, fun {m m'} hm => ?_⟩ <;> split at hm <;> rename_i hspace <;> cases hm
    · rfl
    · rfl
    · rw [if_pos hspace]
      simp only [Option.getD_some, withController_withController]
    · rw [if_neg hspace]

end AgentOperator.Controller
