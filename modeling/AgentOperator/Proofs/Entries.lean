import AgentOperator.Proofs.Scope

/-!
AgentOperator.Proofs.Entries — the entries that webhook configurations are left with.

Three lists are compared as sets before anything is written: the names of the entries,
the expressions of a selector and the resources of a rule. Each comparison looks for as
many elements as are wanted with all wanted ones among them, and the wanted ones never
repeat, so a list passes exactly if it is a rearrangement of what is wanted
(`Keyed.passes_iff_perm`). What a configuration is left with is therefore exact, and
of entries that were right already everything stays that only the server writes
(`entries_exact`).
-/

namespace AgentOperator.Kube

/-- A webhook configuration as an object. -/
def Object.ofWebhooks : WebhookKind → WebhookConfiguration → Object
  | .validating => .validatingWebhookConfiguration
  | .mutating => .mutatingWebhookConfiguration

/-- A rule for every operation on just these resources, in any group and version. -/
structure RuleWithOperations.Covers (resources : List String) (r : RuleWithOperations) : Prop where
  operations : r.operations = some ["*"]
  apiVersions : r.apiVersions = some ["*"]
  apiGroups : r.apiGroups = some ["*"]
  resources : ∃ rs, r.resources = some rs ∧ rs.Perm resources

end AgentOperator.Kube

namespace AgentOperator.Dataplane

open Kube (Object RuleWithOperations ServiceReference Webhook WebhookConfiguration WebhookKind)

variable {kind : WebhookKind} {kubelet : String} {tls : TlsMaterial} {spec : Agent.Spec}

/-! ## Configurations of either kind -/

/-- The component whose object is the configuration of a kind. -/
def webhooksOf : WebhookKind → Component
  | .validating => .validatingWebhook
  | .mutating => .mutatingWebhook

/-- The path of the enforcer's service where it answers for a configuration. -/
def reviewPath : WebhookKind → String
  | .validating => "/validate"
  | .mutating => "/mutate"

/-- The resources that the entry of a name asks about. -/
def reviewedResources (kind : WebhookKind) (entry : String) : List String :=
  match kind with
  | .validating => if entry = validatingNamespacesName then ["namespaces"] else validatedResources
  | .mutating => mutatedResources

/-- What becomes of an entry. -/
def settledEntry (kind : WebhookKind) (kubelet : String) (tls : TlsMaterial) (spec : Agent.Spec) :
    Webhook → Webhook :=
  match kind with
  | .validating => validatingEntry kubelet tls spec
  | .mutating => mutatingEntry kubelet tls spec

/-- What becomes of a configuration. -/
def settledWebhooks (kind : WebhookKind) (kubelet : String) (tls : TlsMaterial)
    (spec : Agent.Spec) : WebhookConfiguration → WebhookConfiguration :=
  match kind with
  | .validating => withValidatingEntries kubelet tls spec
  | .mutating => withMutatingEntries kubelet tls spec

/-- With a certificate nothing keeps a configuration from being brought to the spec. -/
theorem mutate_ofWebhooks (kind : WebhookKind) (s : Surroundings) (tls : TlsMaterial)
    (spec : Agent.Spec) (c : WebhookConfiguration) :
    (webhooksOf kind).mutate { s with tls := some tls } spec (.ofWebhooks kind c)
      = .ok (.ofWebhooks kind (settledWebhooks kind s.kubelet tls spec c)) := by
  cases kind <;> rfl

theorem webhooks_settledWebhooks (kind : WebhookKind) (kubelet : String) (tls : TlsMaterial)
    (spec : Agent.Spec) (c : WebhookConfiguration) :
    (settledWebhooks kind kubelet tls spec c).webhooks
      = (keptEntries (webhooksOf kind).entryNames c.webhooks).map
          (settledEntry kind kubelet tls spec) := by
  cases kind
  case validating =>
    simp only [settledWebhooks, withValidatingEntries, withEntries_eq, withConfigurationLabels]
    rfl
  case mutating =>
    simp only [settledWebhooks, withMutatingEntries, withEntries_eq, withConfigurationLabels]
    rfl

theorem version_settledWebhooks (kind : WebhookKind) (kubelet : String) (tls : TlsMaterial)
    (spec : Agent.Spec) (c : WebhookConfiguration) :
    (settledWebhooks kind kubelet tls spec c).version = c.version := by
  cases kind
  case validating => exact withValidatingEntries_version kubelet tls spec c
  case mutating => exact withMutatingEntries_version kubelet tls spec c

/-! ## One entry -/

section Members

variable (w : Webhook)

theorem settledEntry_name : (settledEntry kind kubelet tls spec w).name = w.name := by
  cases kind <;> simp only [settledEntry, validatingEntry_eq, mutatingEntry_eq]

theorem settledEntry_rules :
    (settledEntry kind kubelet tls spec w).rules
      = [settledRule (reviewedResources kind w.name) w.rules] := by
  cases kind <;> simp only [settledEntry, validatingEntry_eq, mutatingEntry_eq, reviewedResources]

theorem settledEntry_failurePolicy :
    (settledEntry kind kubelet tls spec w).failurePolicy
      = some spec.components.basic.enforcer.failurePolicy := by
  cases kind <;> simp only [settledEntry, validatingEntry_eq, mutatingEntry_eq]

theorem settledEntry_clientConfig :
    (settledEntry kind kubelet tls spec w).clientConfig
      = (withEnforcerService spec.namespace (reviewPath kind)
          (withCaBundle tls.caCert w)).clientConfig := by
  cases kind <;> simp only [settledEntry, validatingEntry_eq, mutatingEntry_eq, reviewPath]

theorem settledEntry_objectSelector :
    (settledEntry kind kubelet tls spec w).objectSelector = w.objectSelector := by
  cases kind <;> simp only [settledEntry, validatingEntry_eq, mutatingEntry_eq]

theorem settledEntry_reinvocationPolicy :
    (settledEntry kind kubelet tls spec w).reinvocationPolicy = w.reinvocationPolicy := by
  cases kind <;> simp only [settledEntry, validatingEntry_eq, mutatingEntry_eq]

end Members

/-! ## Rules -/

theorem reviewedResources_mem (kind : WebhookKind) (entry : String) :
    reviewedResources kind entry ∈ [["namespaces"], validatedResources, mutatedResources] := by
  cases kind
  case validating => by_cases h : entry = validatingNamespacesName <;> simp [reviewedResources, h]
  case mutating => simp [reviewedResources]

/-- Every entry asks about something, and about nothing twice. -/
theorem reviewedResources_proper (kind : WebhookKind) (entry : String) :
    (reviewedResources kind entry).Nodup ∧ reviewedResources kind entry ≠ [] := by
  have hall : ∀ rs ∈ [["namespaces"], validatedResources, mutatedResources],
      rs.Nodup ∧ rs ≠ [] := by decide
  exact hall _ (reviewedResources_mem kind entry)

section Rules

variable {resources : List String}

theorem settledRuleResources_of_perm (hnodup : resources.Nodup) {rs : List String}
    (h : rs.Perm resources) : settledRuleResources resources (some rs) = some rs :=
  if_pos ((Keyed.passes_iff_perm hnodup).2 h)

theorem exists_settledRuleResources (hnodup : resources.Nodup) (hne : resources ≠ [])
    (stored : Option (List String)) :
    ∃ rs, settledRuleResources resources stored = some rs ∧ rs.Perm resources := by
  unfold settledRuleResources
  split
  · rename_i hpasses
    have hperm := (Keyed.passes_iff_perm hnodup).1 hpasses
    cases stored with
    | none => exact absurd hperm.nil_eq.symm hne
    | some rs => exact ⟨rs, rfl, hperm⟩
  · exact ⟨resources, rfl, .refl _⟩

theorem settledRule_covers (hnodup : resources.Nodup) (hne : resources ≠ [])
    (rules : List RuleWithOperations) : (settledRule resources rules).Covers resources :=
  ⟨rfl, rfl, rfl, exists_settledRuleResources hnodup hne _⟩

end Rules

/-! ## Entries that are asked for, and what is kept of them -/

/-- An entry asks the enforcer of the spec, at the path for its configuration, about its
resources, and trusts the authority. -/
structure EntryFor (kind : WebhookKind) (spec : Agent.Spec) (ca : Bytes) (w : Webhook) : Prop where
  rule : ∃ rule, w.rules = [rule] ∧ rule.Covers (reviewedResources kind w.name)
  failurePolicy : w.failurePolicy = some spec.components.basic.enforcer.failurePolicy
  service : ∃ ref : ServiceReference, w.clientConfig.service = some ref ∧
    ref.namespace = spec.namespace ∧ ref.name = enforcerName ∧ ref.path = some (reviewPath kind)
  authority : w.clientConfig.caBundle = some ca

/-- The second entry has of the first what only the server writes, and the resources in
the order in which they were right. -/
structure EntryKept (kind : WebhookKind) (w w₁ : Webhook) : Prop where
  name : w₁.name = w.name
  objectSelector : w₁.objectSelector = w.objectSelector
  reinvocationPolicy : w₁.reinvocationPolicy = w.reinvocationPolicy
  port : w₁.clientConfig.service.bind (·.port) = w.clientConfig.service.bind (·.port)
  rule : ∀ rule, w.rules = [rule] → ∃ rule₁, w₁.rules = [rule₁] ∧ rule₁.scope = rule.scope ∧
    ∀ rs, rule.resources = some rs → rs.Perm (reviewedResources kind w.name) →
      rule₁.resources = some rs

theorem settledEntry_for (kind : WebhookKind) (kubelet : String) (tls : TlsMaterial)
    (spec : Agent.Spec) (w : Webhook) :
    EntryFor kind spec tls.caCert (settledEntry kind kubelet tls spec w) where
  rule := by
    rw [settledEntry_rules, settledEntry_name]
    obtain ⟨hnodup, hne⟩ := reviewedResources_proper kind w.name
    exact ⟨_, rfl, settledRule_covers hnodup hne w.rules⟩
  failurePolicy := by rw [settledEntry_failurePolicy]
  service := by
    rw [settledEntry_clientConfig]
    exact ⟨_, rfl, rfl, rfl, rfl⟩
  authority := by
    rw [settledEntry_clientConfig]
    rfl

theorem settledEntry_kept (kind : WebhookKind) (kubelet : String) (tls : TlsMaterial)
    (spec : Agent.Spec) (w : Webhook) :
    EntryKept kind w (settledEntry kind kubelet tls spec w) where
  name := settledEntry_name w
  objectSelector := settledEntry_objectSelector w
  reinvocationPolicy := settledEntry_reinvocationPolicy w
  port := by
    rw [settledEntry_clientConfig]
    show (w.clientConfig.service.getD {}).port = _
    cases w.clientConfig.service <;> rfl
  rule := by
    intro rule hrule
    refine ⟨_, settledEntry_rules w, ?_, fun rs hrs hperm => ?_⟩
    · rw [hrule]
      rfl
    · rw [hrule]
      show settledRuleResources _ rule.resources = some rs
      rw [hrs, settledRuleResources_of_perm (reviewedResources_proper kind _).1 hperm]

/-! ## Names -/

theorem entryNames_nodup (c : Component) : c.entryNames.Nodup := by
  cases c <;> decide

/-- **The entries are exact, and what the server writes survives.** A configuration of
either kind is left with one entry of each name, each asking for what the spec says. If its
entries had just these names, they keep their order and whatever the spec does not ask
for. -/
theorem entries_exact (kind : WebhookKind) (s : Surroundings) (tls : TlsMaterial)
    (spec : Agent.Spec) (c : WebhookConfiguration) :
    ∃ c₁ : WebhookConfiguration,
      (webhooksOf kind).mutate { s with tls := some tls } spec (.ofWebhooks kind c)
        = .ok (.ofWebhooks kind c₁) ∧
      (c₁.webhooks.map (·.name)).Perm (webhooksOf kind).entryNames ∧
      (∀ w ∈ c₁.webhooks, EntryFor kind spec tls.caCert w) ∧
      ((c.webhooks.map (·.name)).Perm (webhooksOf kind).entryNames →
        List.Forall₂ (EntryKept kind) c.webhooks c₁.webhooks) := by
  let names := (webhooksOf kind).entryNames
  have hnodup : names.Nodup := entryNames_nodup (webhooksOf kind)
  refine ⟨_, mutate_ofWebhooks kind s tls spec c, ?_, ?_, fun hstored => ?_⟩
  · rw [webhooks_settledWebhooks]
    exact (hasEntries_iff_perm hnodup).1 ((hasEntries_keptEntries names c.webhooks).map
      settledEntry_name)
  · rw [webhooks_settledWebhooks, List.forall_mem_map]
    exact fun w _ => settledEntry_for kind s.kubelet tls spec w
  · -- The entries are not started afresh, so each is brought to the spec in its place.
    have hkept : keptEntries names c.webhooks = c.webhooks :=
      if_pos ((hasEntries_iff_perm hnodup).2 hstored)
    rw [webhooks_settledWebhooks, hkept, List.forall₂_map_right_iff, List.forall₂_same]
    exact fun w _ => settledEntry_kept kind s.kubelet tls spec w

end AgentOperator.Dataplane
