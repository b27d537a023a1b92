import AgentOperator.Dataplane.Mutate
import AgentOperator.Proofs.Codecs
import AgentOperator.Proofs.NodeAgent

/-!
AgentOperator.Proofs.Mutate — bringing an object to the spec a second time.

For every component: if an object could be brought to the spec, then so can the
result, and it comes out as it went in exactly when the object was not *stray*
(`Component.mutate_mutate`). Only objects with pods can be. A stray one has as
many volumes as are wanted, or its container as many mounts, with a wanted one
missing among them: the first time the missing ones are added to the others,
the second time all of them are dropped and made anew.
-/

namespace AgentOperator.Dataplane

open Kube (ConfigMap DaemonSet Deployment LabelSelector Object PriorityClass RuleWithOperations
  Secret Service Webhook WebhookConfiguration versionAtLeast)
open Workload

/-! ## Services and plain objects -/

theorem ServicePlan.apply_apply (p : ServicePlan) (s : Service) : p.apply (p.apply s) = p.apply s := by
  cases h : p.headless <;> simp [apply, h]

/-! ## Webhook entries -/

/-- The resources a rule is left with. -/
def settledRuleResources (resources : List String) (stored : Option (List String)) :
    Option (List String) :=
  if decide ((stored.getD []).length = resources.length) &&
      resources.all fun r => (stored.getD []).contains r then stored
  else some resources

theorem settledRuleResources_settled (resources : List String) (stored : Option (List String)) :
    settledRuleResources resources (settledRuleResources resources stored)
      = settledRuleResources resources stored := by
  by_cases h : settledRuleResources resources stored = stored
  · rw [h, h]
  · have hwrite : settledRuleResources resources stored = some resources := by
      rw [settledRuleResources] at h ⊢
      split at h
      · exact absurd rfl h
      · rename_i hno
        rw [if_neg hno]
    rw [hwrite, settledRuleResources]
    split <;> rfl

/-- The rule an entry is left with. -/
def settledRule (resources : List String) (rules : List RuleWithOperations) :
    RuleWithOperations :=
  let rule : RuleWithOperations := match rules with
    | [rule] => rule
    | _ => {}
  { rule with
    operations := some ["*"]
    apiVersions := some ["*"]
    apiGroups := some ["*"]
    resources := settledRuleResources resources rule.resources }

theorem withRule_eq (resources : List String) (w : Webhook) :
    withRule resources w = { w with rules := [settledRule resources w.rules] } := rfl

theorem settledRule_settled (resources : List String) (rules : List RuleWithOperations) :
    settledRule resources [settledRule resources rules] = settledRule resources rules := by
  simp only [settledRule, settledRuleResources_settled]

/-- The namespaces an entry is left with. -/
def settledNamespaces (excluded : List String) (s : Option LabelSelector) :
    Option LabelSelector :=
  let desired := reviewedNamespaces excluded
  let satisfied := (s.bind (·.matchExpressions)).any fun es =>
    decide (es.length = desired.length) && desired.all fun d => es.contains d
  if satisfied then s else some { matchExpressions := some desired }

theorem withNamespaceSelector_eq (excluded : List String) (w : Webhook) :
    withNamespaceSelector excluded w
      = { w with namespaceSelector := settledNamespaces excluded w.namespaceSelector } := by
  simp only [withNamespaceSelector, settledNamespaces]
  split <;> rfl

theorem settledNamespaces_settled (excluded : List String) (s : Option LabelSelector) :
    settledNamespaces excluded (settledNamespaces excluded s) = settledNamespaces excluded s := by
  by_cases h : settledNamespaces excluded s = s
  · rw [h, h]
  · have hwrite : settledNamespaces excluded s
        = some { matchExpressions := some (reviewedNamespaces excluded) } := by
      simp only [settledNamespaces] at h ⊢
      split at h
      · exact absurd rfl h
      · rename_i hno
        rw [if_neg hno]
    rw [hwrite, settledNamespaces]
    split <;> rfl

/-- The members that an entry of the validating configuration is left with. -/
theorem validatingEntry_eq (kubelet : String) (tls : TlsMaterial) (spec : Agent.Spec)
    (w : Webhook) :
    validatingEntry kubelet tls spec w =
      { w with
        admissionReviewVersions := reviewVersions
        clientConfig :=
          (withEnforcerService spec.namespace "/validate" (withCaBundle tls.caCert w)).clientConfig
        failurePolicy := some spec.components.basic.enforcer.failurePolicy
        matchPolicy := some "Equivalent"
        namespaceSelector :=
          if w.name = validatingNamespacesName then some {}
          else settledNamespaces [spec.namespace] w.namespaceSelector
        rules :=
          [settledRule (if w.name = validatingNamespacesName then ["namespaces"]
            else validatedResources) w.rules]
        sideEffects := some (if w.name = validatingNamespacesName then "None" else "NoneOnDryRun")
        timeoutSeconds :=
          if versionAtLeast kubelet 1 14 then
            some spec.components.basic.enforcer.webhookTimeoutSeconds
          else w.timeoutSeconds } := by
  by_cases hname : w.name = validatingNamespacesName <;>
    simp only [validatingEntry, withRule_eq, withNamespaceSelector_eq, withEnforcerService,
      withCaBundle, hname, if_true, if_false]

/-- The members that an entry of the mutating configuration is left with. -/
theorem mutatingEntry_eq (kubelet : String) (tls : TlsMaterial) (spec : Agent.Spec)
    (w : Webhook) :
    mutatingEntry kubelet tls spec w =
      { w with
        admissionReviewVersions :=
          if versionAtLeast kubelet 1 14 then reviewVersions else w.admissionReviewVersions
        clientConfig :=
          (withEnforcerService spec.namespace "/mutate" (withCaBundle tls.caCert w)).clientConfig
        failurePolicy := some spec.components.basic.enforcer.failurePolicy
        matchPolicy := if versionAtLeast kubelet 1 15 then some "Equivalent" else w.matchPolicy
        namespaceSelector := settledNamespaces [spec.namespace, systemNamespace] w.namespaceSelector
        rules := [settledRule mutatedResources w.rules]
        sideEffects := some "NoneOnDryRun"
        timeoutSeconds :=
          if versionAtLeast kubelet 1 14 then
            some spec.components.basic.enforcer.webhookTimeoutSeconds
          else w.timeoutSeconds } := by
  by_cases h : versionAtLeast kubelet 1 14 <;> by_cases h' : versionAtLeast kubelet 1 15 <;>
    simp only [mutatingEntry, withRule_eq, withNamespaceSelector_eq, withEnforcerService,
      withCaBundle, h, h', if_true, if_false, Bool.false_eq_true]

theorem validatingEntry_name (kubelet : String) (tls : TlsMaterial) (spec : Agent.Spec)
    (w : Webhook) : (validatingEntry kubelet tls spec w).name = w.name := by
  rw [validatingEntry_eq]

theorem validatingEntry_validatingEntry (kubelet : String) (tls : TlsMaterial)
    (spec : Agent.Spec) (w : Webhook) :
    validatingEntry kubelet tls spec (validatingEntry kubelet tls spec w)
      = validatingEntry kubelet tls spec w := by
  by_cases hname : w.name = validatingNamespacesName <;>
    by_cases hversion : versionAtLeast kubelet 1 14 <;>
    simp only [validatingEntry_eq, withEnforcerService, withCaBundle, hname, hversion, if_true,
      if_false, Bool.false_eq_true, Option.getD_some, settledRule_settled,
      settledNamespaces_settled]

theorem mutatingEntry_name (kubelet : String) (tls : TlsMaterial) (spec : Agent.Spec)
    (w : Webhook) : (mutatingEntry kubelet tls spec w).name = w.name := by
  rw [mutatingEntry_eq]

theorem mutatingEntry_mutatingEntry (kubelet : String) (tls : TlsMaterial) (spec : Agent.Spec)
    (w : Webhook) :
    mutatingEntry kubelet tls spec (mutatingEntry kubelet tls spec w)
      = mutatingEntry kubelet tls spec w := by
  by_cases h : versionAtLeast kubelet 1 14 <;> by_cases h' : versionAtLeast kubelet 1 15 <;>
    simp only [mutatingEntry_eq, withEnforcerService, withCaBundle, h, h', if_true, if_false,
      Bool.false_eq_true, Option.getD_some, settledRule_settled, settledNamespaces_settled]

/-! ## Webhook configurations -/

/-- Whether there are just as many entries as names, with an entry of each. -/
def HasEntries (names : List String) (webhooks : List Webhook) : Prop :=
  webhooks.length = names.length ∧
    (names.all fun name => webhooks.any fun w => decide (w.name = name)) = true

instance (names : List String) (webhooks : List Webhook) : Decidable (HasEntries names webhooks) :=
  inferInstanceAs (Decidable (_ ∧ _))

/-- The entries a configuration starts from. -/
def keptEntries (names : List String) (webhooks : List Webhook) : List Webhook :=
  if HasEntries names webhooks then webhooks else names.map fun name => { name }

theorem withEntries_eq (names : List String) (c : WebhookConfiguration) :
    withEntries names c = { c with webhooks := keptEntries names c.webhooks } := by
  by_cases h : HasEntries names c.webhooks
  · rw [keptEntries, if_pos h]
    exact if_pos h
  · rw [keptEntries, if_neg h]
    exact if_neg h

theorem hasEntries_keptEntries (names : List String) (webhooks : List Webhook) :
    HasEntries names (keptEntries names webhooks) := by
  by_cases h : HasEntries names webhooks
  · rwa [keptEntries, if_pos h]
  · rw [keptEntries, if_neg h]
    refine ⟨List.length_map .., List.all_eq_true.2 fun name hname => List.any_eq_true.2 ?_⟩
    exact ⟨{ name }, List.mem_map.2 ⟨name, hname, rfl⟩, by simp⟩

/-- A change that keeps the names of entries keeps which of them there are. -/
theorem HasEntries.map {names : List String} {webhooks : List Webhook}
    {change : Webhook → Webhook} (hname : ∀ w, (change w).name = w.name)
    (h : HasEntries names webhooks) : HasEntries names (webhooks.map change) := by
  refine ⟨by rw [List.length_map, h.1], List.all_eq_true.2 fun name hmem => ?_⟩
  obtain ⟨w, hw, hwname⟩ := List.any_eq_true.1 (List.all_eq_true.1 h.2 name hmem)
  exact List.any_eq_true.2 ⟨change w, List.mem_map_of_mem hw, by rwa [hname]⟩

/-- Entries are kept, and a change that keeps their names and does nothing the
second time finds them as it left them. -/
theorem map_keptEntries_twice {change : Webhook → Webhook} (hname : ∀ w, (change w).name = w.name)
    (hchange : ∀ w, change (change w) = change w) (names : List String)
    (webhooks : List Webhook) :
    (keptEntries names ((keptEntries names webhooks).map change)).map change
      = (keptEntries names webhooks).map change := by
  have hkept := (hasEntries_keptEntries names webhooks).map hname
  conv => lhs; rw [keptEntries, if_pos hkept]
  rw [List.map_map]
  exact List.map_congr_left fun w _ => hchange w

theorem withValidatingEntries_twice (kubelet : String) (tls : TlsMaterial) (spec : Agent.Spec)
    (c : WebhookConfiguration) :
    withValidatingEntries kubelet tls spec (withValidatingEntries kubelet tls spec c)
      = withValidatingEntries kubelet tls spec c := by
  simp only [withValidatingEntries, withEntries_eq, withConfigurationLabels,
    map_keptEntries_twice (validatingEntry_name kubelet tls spec)
      (validatingEntry_validatingEntry kubelet tls spec)]

theorem withMutatingEntries_twice (kubelet : String) (tls : TlsMaterial) (spec : Agent.Spec)
    (c : WebhookConfiguration) :
    withMutatingEntries kubelet tls spec (withMutatingEntries kubelet tls spec c)
      = withMutatingEntries kubelet tls spec c := by
  simp only [withMutatingEntries, withEntries_eq, withConfigurationLabels,
    map_keptEntries_twice (mutatingEntry_name kubelet tls spec)
      (mutatingEntry_mutatingEntry kubelet tls spec)]

/-! ## Objects by kind -/

theorem asDeployment_eq_ok {o : Object} {d : Deployment} :
    o.asDeployment = .ok d ↔ o = .deployment d := by
  cases o <;> simp [Object.asDeployment, Object.refuse]

theorem asDaemonSet_eq_ok {o : Object} {d : DaemonSet} :
    o.asDaemonSet = .ok d ↔ o = .daemonSet d := by
  cases o <;> simp [Object.asDaemonSet, Object.refuse]

theorem asService_eq_ok {o : Object} {d : Service} : o.asService = .ok d ↔ o = .service d := by
  cases o <;> simp [Object.asService, Object.refuse]

theorem asSecret_eq_ok {o : Object} {d : Secret} : o.asSecret = .ok d ↔ o = .secret d := by
  cases o <;> simp [Object.asSecret, Object.refuse]

theorem exists_asSecret {o : Object} (h : o.kind = .secret) : ∃ d, o.asSecret = .ok d := by
  cases o <;> cases h
  exact ⟨_, rfl⟩

theorem asSecret_of_kind_ne {o : Object} (h : o.kind ≠ .secret) :
    o.asSecret = .error (.unexpectedKind .secret o.kind) := by
  cases o <;> first | rfl | exact absurd rfl h

theorem asConfigMap_eq_ok {o : Object} {d : ConfigMap} :
    o.asConfigMap = .ok d ↔ o = .configMap d := by
  cases o <;> simp [Object.asConfigMap, Object.refuse]

theorem asPriorityClass_eq_ok {o : Object} {d : PriorityClass} :
    o.asPriorityClass = .ok d ↔ o = .priorityClass d := by
  cases o <;> simp [Object.asPriorityClass, Object.refuse]

theorem asValidatingWebhooks_eq_ok {o : Object} {d : WebhookConfiguration} :
    o.asValidatingWebhooks = .ok d ↔ o = .validatingWebhookConfiguration d := by
  cases o <;> simp [Object.asValidatingWebhooks, Object.refuse]

theorem asMutatingWebhooks_eq_ok {o : Object} {d : WebhookConfiguration} :
    o.asMutatingWebhooks = .ok d ↔ o = .mutatingWebhookConfiguration d := by
  cases o <;> simp [Object.asMutatingWebhooks, Object.refuse]

/-! ## Components -/

/-- The plan of a component that is a deployment. -/
def Component.deploymentPlan? (c : Component) (nodes : Option UInt64) (spec : Agent.Spec) :
    Option DeploymentPlan :=
  match c with
  | .monitor => some (monitorPlan spec)
  | .enforcer => some (enforcerPlan spec)
  | .stateReporter => some (stateReporterPlan spec)
  | .resolver => some (resolverPlan nodes spec)
  | .imageScanningReporter => some (imageScanningReporterPlan spec)
  | _ => none

theorem Component.deploymentPlan?_proper {c : Component} {nodes : Option UInt64}
    {spec : Agent.Spec} {p : DeploymentPlan} (h : c.deploymentPlan? nodes spec = some p) :
    p.Proper := by
  cases c <;> simp only [deploymentPlan?, Option.some.injEq, reduceCtorEq] at h <;> subst h
  · exact monitorPlan_proper spec
  · exact enforcerPlan_proper spec
  · exact stateReporterPlan_proper spec
  · exact resolverPlan_proper nodes spec
  · exact imageScanningReporterPlan_proper spec

/-- The plan of a component that is a service. -/
def Component.servicePlan? (c : Component) (spec : Agent.Spec) : Option ServicePlan :=
  match c with
  | .enforcerService => some (enforcerServicePlan spec)
  | .resolverService => some (resolverServicePlan spec)
  | .imageScanningReporterService => some (imageScanningReporterServicePlan spec)
  | _ => none

/-- What a component makes of an object of its kind, and the facts from outside
it needs for that. -/
inductive Component.Change (s : Surroundings) (spec : Agent.Spec) :
    Component → Object → Object → Prop where
  | configMap (m : ConfigMap) :
    Change s spec .configMap (.configMap m)
      (.configMap { m with data := some (configMapData spec) })
  | registrySecret (secret : Secret) {r : RegistryCredentials} (hr : s.registry = some r) :
    Change s spec .registrySecret (.secret secret)
      (.secret { secret with type := some r.type, data := some r.data })
  | priorityClass (p : PriorityClass) :
    Change s spec .priorityClass (.priorityClass p) (.priorityClass (withPriority p))
  | enforcerTls (secret : Secret) {tls : TlsMaterial} (htls : s.issued = .ok tls) :
    Change s spec .enforcerTls (.secret secret)
      (.secret { secret with data := some tls.toSecretData })
  | validatingWebhook (w : WebhookConfiguration) {tls : TlsMaterial} (htls : s.tls = some tls) :
    Change s spec .validatingWebhook (.validatingWebhookConfiguration w)
      (.validatingWebhookConfiguration (withValidatingEntries s.kubelet tls spec w))
  | mutatingWebhook (w : WebhookConfiguration) {tls : TlsMaterial} (htls : s.tls = some tls) :
    Change s spec .mutatingWebhook (.mutatingWebhookConfiguration w)
      (.mutatingWebhookConfiguration (withMutatingEntries s.kubelet tls spec w))
  | deployment {c : Component} (d : Deployment) {p : DeploymentPlan}
      (hp : c.deploymentPlan? s.nodes spec = some p) :
    Change s spec c (.deployment d) (.deployment (p.apply spec d))
  | service {c : Component} (d : Service) {p : ServicePlan} (hp : c.servicePlan? spec = some p) :
    Change s spec c (.service d) (.service (p.apply d))
  | nodeAgent (d : DaemonSet) :
    Change s spec .nodeAgent (.daemonSet d) (.daemonSet (withNodeAgent spec d))

theorem requiredTls_eq_ok {s : Surroundings} {tls : TlsMaterial} :
    s.requiredTls = .ok tls ↔ s.tls = some tls := by
  unfold Surroundings.requiredTls
  cases s.tls <;> simp

theorem requiredRegistry_eq_ok {s : Surroundings} {r : RegistryCredentials} :
    s.requiredRegistry = .ok r ↔ s.registry = some r := by
  unfold Surroundings.requiredRegistry
  cases s.registry <;> simp

/-- Everything that bringing an object to the spec can do. -/
theorem Component.change_of_mutate {c : Component} {s : Surroundings} {spec : Agent.Spec}
    {o o₁ : Object} (h : c.mutate s spec o = .ok o₁) : Component.Change s spec c o o₁ := by
  cases c <;> simp only [mutate, Except.bind_eq_ok, pure, Except.pure, Except.ok.injEq,
    asDeployment_eq_ok, asDaemonSet_eq_ok, asService_eq_ok, asSecret_eq_ok, asConfigMap_eq_ok,
    asPriorityClass_eq_ok, asValidatingWebhooks_eq_ok, asMutatingWebhooks_eq_ok,
    requiredTls_eq_ok, requiredRegistry_eq_ok] at h
  case configMap => obtain ⟨d, rfl, rfl⟩ := h; exact .configMap d
  case registrySecret => obtain ⟨d, rfl, r, hr, rfl⟩ := h; exact .registrySecret d hr
  case priorityClass => obtain ⟨d, rfl, rfl⟩ := h; exact .priorityClass d
  case monitor => obtain ⟨d, rfl, rfl⟩ := h; exact .deployment d rfl
  case enforcerTls => obtain ⟨d, rfl, tls, htls, rfl⟩ := h; exact .enforcerTls d htls
  case enforcerService => obtain ⟨d, rfl, rfl⟩ := h; exact .service d rfl
  case enforcer => obtain ⟨d, rfl, rfl⟩ := h; exact .deployment d rfl
  case validatingWebhook => obtain ⟨d, rfl, tls, htls, rfl⟩ := h; exact .validatingWebhook d htls
  case mutatingWebhook => obtain ⟨d, rfl, tls, htls, rfl⟩ := h; exact .mutatingWebhook d htls
  case stateReporter => obtain ⟨d, rfl, rfl⟩ := h; exact .deployment d rfl
  case resolverService => obtain ⟨d, rfl, rfl⟩ := h; exact .service d rfl
  case resolver => obtain ⟨d, rfl, rfl⟩ := h; exact .deployment d rfl
  case imageScanningReporterService => obtain ⟨d, rfl, rfl⟩ := h; exact .service d rfl
  case imageScanningReporter => obtain ⟨d, rfl, rfl⟩ := h; exact .deployment d rfl
  case nodeAgent => obtain ⟨d, rfl, rfl⟩ := h; exact .nodeAgent d

/-- A change is what bringing the object to the spec comes to. -/
theorem Component.Change.mutate {c : Component} {s : Surroundings} {spec : Agent.Spec}
    {o o₁ : Object} (h : Component.Change s spec c o o₁) : c.mutate s spec o = .ok o₁ := by
  cases h with
  | configMap d => rfl
  | registrySecret d hr => simp only [Component.mutate, Object.asSecret, requiredRegistry_eq_ok.2 hr]; rfl
  | priorityClass d => rfl
  | enforcerTls d htls => simp only [Component.mutate, Object.asSecret, htls]; rfl
  | validatingWebhook d htls =>
    simp only [Component.mutate, Object.asValidatingWebhooks, requiredTls_eq_ok.2 htls]; rfl
  | mutatingWebhook d htls =>
    simp only [Component.mutate, Object.asMutatingWebhooks, requiredTls_eq_ok.2 htls]; rfl
  | deployment d hp =>
    cases c <;> simp only [deploymentPlan?, Option.some.injEq, reduceCtorEq] at hp <;> subst hp <;> rfl
  | service d hp =>
    cases c <;> simp only [servicePlan?, Option.some.injEq, reduceCtorEq] at hp <;> subst hp <;> rfl
  | nodeAgent d => rfl

/-- Whether an object holds as many volumes or mounts as the component wants,
but not those it wants. -/
def Component.Stray (c : Component) (s : Surroundings) (spec : Agent.Spec) (o : Object) : Prop :=
  match o with
  | .deployment d => ∃ p, c.deploymentPlan? s.nodes spec = some p ∧ p.Stray d
  | .daemonSet d => c = .nodeAgent ∧ StrayAgent spec d
  | _ => False

/-- What was changed can be changed again, and it comes out as it went in exactly
when the object was not stray. -/
theorem Component.Change.again {c : Component} {s : Surroundings} {spec : Agent.Spec}
    {o o₁ : Object} (h : Component.Change s spec c o o₁) :
    ∃ o₂, Component.Change s spec c o₁ o₂ ∧ (o₂ = o₁ ↔ ¬ c.Stray s spec o) := by
  cases h with
  | configMap d => exact ⟨_, .configMap _, by simp [Stray]⟩
  | registrySecret d hr => exact ⟨_, .registrySecret _ hr, by simp [Stray]⟩
  | priorityClass d => exact ⟨_, .priorityClass _, by simp [Stray, withPriority]⟩
  | enforcerTls d htls => exact ⟨_, .enforcerTls _ htls, by simp [Stray]⟩
  | validatingWebhook d htls =>
    exact ⟨_, .validatingWebhook _ htls, by simp [Stray, withValidatingEntries_twice]⟩
  | mutatingWebhook d htls =>
    exact ⟨_, .mutatingWebhook _ htls, by simp [Stray, withMutatingEntries_twice]⟩
  | @deployment _ d p hp =>
    refine ⟨_, .deployment _ hp, ?_⟩
    rw [Object.deployment.injEq, DeploymentPlan.apply_apply_iff (deploymentPlan?_proper hp)]
    refine not_congr ⟨fun hstray => ⟨p, hp, hstray⟩, ?_⟩
    rintro ⟨q, hq, hstray⟩
    rw [hp] at hq
    cases hq
    exact hstray
  | service d hp => exact ⟨_, .service _ hp, by simp [Stray, ServicePlan.apply_apply]⟩
  | nodeAgent d =>
    refine ⟨_, .nodeAgent _, ?_⟩
    rw [Object.daemonSet.injEq, withNodeAgent_withNodeAgent_iff]
    simp [Stray]

/-- **Bringing an object to the spec twice.** What was brought to the spec can
be again, and it comes out as it went in exactly when the object was not
stray. -/
theorem Component.mutate_mutate_iff {c : Component} {s : Surroundings} {spec : Agent.Spec}
    {o o₁ : Object} (h : c.mutate s spec o = .ok o₁) :
    ∃ o₂, c.mutate s spec o₁ = .ok o₂ ∧ (o₂ = o₁ ↔ ¬ c.Stray s spec o) := by
  obtain ⟨o₂, hagain, hiff⟩ := (c.change_of_mutate h).again
  exact ⟨o₂, hagain.mutate, hiff⟩

/-- The empty deployment of the monitor is settled by bringing it to the spec
once. -/
theorem mutate_emptyMonitor :
    ∃ o₁, Component.monitor.mutate {} default (.deployment {}) = .ok o₁ ∧
      Component.monitor.mutate {} default o₁ = .ok o₁ := by
  have h : Component.monitor.mutate {} default (.deployment {})
      = .ok (.deployment ((monitorPlan default).apply default {})) := rfl
  have hkept : ¬ Component.monitor.Stray {} default (.deployment {}) := by
    rintro ⟨p, hp, hstray⟩
    cases hp
    exact absurd hstray (by decide)
  obtain ⟨o₂, hagain, hiff⟩ := Component.mutate_mutate_iff h
  exact ⟨_, h, (hiff.2 hkept) ▸ hagain⟩

/-- A deployment whose pod has one volume, which nothing asks for. -/
def foreignVolume : Deployment :=
  { spec := some { template := { spec := some { volumes := some [{ name := "foreign" }] } } } }

/-- The monitor wants one volume too, so the foreign one stays the first time
and goes away the second time. -/
theorem mutate_foreignVolume :
    ∃ o₁ o₂, Component.monitor.mutate {} default (.deployment foreignVolume) = .ok o₁ ∧
      Component.monitor.mutate {} default o₁ = .ok o₂ ∧ o₂ ≠ o₁ := by
  have h : Component.Change {} default .monitor (.deployment foreignVolume)
      (.deployment ((monitorPlan default).apply default foreignVolume)) := .deployment _ rfl
  have hstray : Component.monitor.Stray {} default (.deployment foreignVolume) :=
    ⟨monitorPlan default, rfl, by decide⟩
  obtain ⟨o₂, hagain, hiff⟩ := h.again
  exact ⟨_, o₂, h.mutate, hagain.mutate, fun heq => hiff.1 heq hstray⟩

end AgentOperator.Dataplane
