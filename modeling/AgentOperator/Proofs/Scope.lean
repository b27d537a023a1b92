import AgentOperator.Proofs.Leftovers

/-!
AgentOperator.Proofs.Scope — the namespaces whose objects the enforcer reviews.

A selector of labels is read as the API server reads it (`LabelSelector.selects`). The
selectors that the webhooks are given select the namespaces that are meant
(`selects_iff`). A stored selector that has just these expressions, in
some order, is kept as it is, whatever labels it asks for besides; then namespaces without
those labels are passed over (`Component.reviews_iff`).
-/

namespace AgentOperator

theorem Dict.all_toList_iff {V : Type u} {d : Dict V} {p : String × V → Bool} :
    d.toList.all p = true ↔ ∀ key value, d.get? key = some value → p (key, value) = true := by
  rw [List.all_eq_true]
  constructor
  · exact fun h key value hvalue => h _ (Entries.find?_eq_some hvalue)
  · exact fun h e he => h e.1 e.2 (Entries.find?_of_mem d.sorted he)

end AgentOperator

namespace AgentOperator.Kube

/-! ## Selectors -/

/-- Whether labels meet a requirement. A label that is missing has no value, so it is in
no list of values. -/
def LabelSelectorRequirement.isMetBy (r : LabelSelectorRequirement) (labels : Dict String) :
    Bool :=
  let listed := (labels.get? r.key).any fun value => (r.values.getD []).contains value
  match r.operator with
  | "In" => listed
  | "NotIn" => !listed
  | "Exists" => labels.contains r.key
  | "DoesNotExist" => !labels.contains r.key
  | _ => false

/-- Whether labels are selected: all labels that are asked for are among them, and all
expressions are met. -/
def LabelSelector.selects (s : LabelSelector) (labels : Dict String) : Bool :=
  ((s.matchLabels.getD ∅).toList.all fun (key, value) =>
      decide (labels.get? key = some value)) &&
    (s.matchExpressions.getD []).all (·.isMetBy labels)

/-- Whether an entry reviews the objects of a namespace with these labels. Without a
selector it reviews all. -/
def Webhook.reviews (w : Webhook) (labels : Dict String) : Bool :=
  (w.namespaceSelector.getD {}).selects labels

end AgentOperator.Kube

namespace AgentOperator.Dataplane

open Kube (LabelSelector LabelSelectorRequirement Object Webhook versionAtLeast)

variable {c : Component} {s : Surroundings} {spec : Agent.Spec} {o o₁ : Object}
  {excluded : List String} {labels : Dict String}

/-- A namespace that has not opted out and is none of the excluded ones. -/
def InScope (excluded : List String) (labels : Dict String) : Prop :=
  labels.get? "octarine" ≠ some "ignore" ∧
    ∀ name ∈ excluded, labels.get? "kubernetes.io/metadata.name" ≠ some name

theorem notIn_isMetBy_iff {key : String} {values : List String} :
    (notIn key values).isMetBy labels = true ↔ ∀ value ∈ values, labels.get? key ≠ some value := by
  have hlisted : (notIn key values).isMetBy labels
      = !(labels.get? key).any fun value => values.contains value := rfl
  rw [hlisted]
  cases labels.get? key with
  | none => simp
  | some held =>
    simp only [Option.any_some, Bool.not_eq_true', List.contains_eq_mem, decide_eq_false_iff_not]
    refine ⟨fun hnot value hmem heq => hnot ?_, fun hall hmem => hall held hmem rfl⟩
    cases heq
    exact hmem

/-- The expressions that the webhooks are given select what is meant, in whatever order
they come. -/
theorem all_isMetBy_iff {es : List LabelSelectorRequirement}
    (h : es.Perm (reviewedNamespaces excluded)) :
    es.all (·.isMetBy labels) = true ↔ InScope excluded labels := by
  simp only [List.all_eq_true, h.mem_iff, reviewedNamespaces, List.forall_mem_cons,
    notIn_isMetBy_iff, InScope, List.not_mem_nil, false_implies, implies_true, and_true]

theorem selects_iff {sel : LabelSelector} {es : List LabelSelectorRequirement}
    (hes : sel.matchExpressions = some es) (h : es.Perm (reviewedNamespaces excluded)) :
    sel.selects labels = true
      ↔ (∀ key value, (sel.matchLabels.getD ∅).get? key = some value →
          labels.get? key = some value) ∧ InScope excluded labels := by
  rw [LabelSelector.selects, Bool.and_eq_true, hes, Option.getD_some, all_isMetBy_iff h,
    Dict.all_toList_iff]
  simp only [decide_eq_true_eq]

/-! ## What is kept of a stored selector -/

/-- A selector has just the wanted expressions, in some order. -/
def Worded (excluded : List String) (sel : LabelSelector) : Prop :=
  ∃ es, sel.matchExpressions = some es ∧ es.Perm (reviewedNamespaces excluded)

theorem reviewedNamespaces_nodup (excluded : List String) :
    (reviewedNamespaces excluded).Nodup := by
  have hne : notIn "octarine" ["ignore"] ≠ notIn "kubernetes.io/metadata.name" excluded := by
    simp [notIn]
  simp [reviewedNamespaces, hne]

theorem settledNamespaces_of_worded {sel : LabelSelector} (h : Worded excluded sel) :
    settledNamespaces excluded (some sel) = some sel := by
  obtain ⟨es, hes, hperm⟩ := h
  have hpasses := (Keyed.passes_iff_perm (reviewedNamespaces_nodup excluded)).2 hperm
  simp only [settledNamespaces, Option.bind_some, hes, Option.any_some, hpasses, if_true]

theorem settledNamespaces_of_not_worded {stored : Option LabelSelector}
    (h : ∀ sel, stored = some sel → ¬ Worded excluded sel) :
    settledNamespaces excluded stored
      = some { matchExpressions := some (reviewedNamespaces excluded) } := by
  rw [settledNamespaces]
  refine if_neg fun hsatisfied => ?_
  obtain ⟨es, hes, hperm⟩ := (Option.any_eq_true ..).1 hsatisfied
  obtain ⟨sel, rfl, hsel⟩ := Option.bind_eq_some_iff.1 hes
  exact h sel rfl ⟨es, hsel, (Keyed.passes_iff_perm (reviewedNamespaces_nodup excluded)).1 hperm⟩

/-- A stored selector is kept that asks for labels besides. -/
def Narrowed (excluded : List String) (stored : Option LabelSelector) : Prop :=
  ∃ sel, stored = some sel ∧ Worded excluded sel ∧ sel.matchLabels.getD ∅ ≠ ∅

/-- What is left of a selector selects what is meant, unless a narrower one is kept. -/
theorem settledNamespaces_selects_iff (excluded : List String) (stored : Option LabelSelector) :
    (∀ labels, ((settledNamespaces excluded stored).getD {}).selects labels = true
        ↔ InScope excluded labels)
      ↔ ¬ Narrowed excluded stored := by
  by_cases hworded : ∃ sel, stored = some sel ∧ Worded excluded sel
  · obtain ⟨sel, rfl, hsel⟩ := hworded
    obtain ⟨es, hes, hperm⟩ := hsel
    have hnarrowed : Narrowed excluded (some sel) ↔ sel.matchLabels.getD ∅ ≠ ∅ :=
      ⟨fun ⟨_, heq, _, hne⟩ => Option.some.inj heq ▸ hne,
        fun hne => ⟨sel, rfl, ⟨es, hes, hperm⟩, hne⟩⟩
    rw [settledNamespaces_of_worded ⟨es, hes, hperm⟩, hnarrowed, not_not, Option.getD_some]
    simp only [selects_iff hes hperm]
    constructor
    · intro hall
      -- A namespace without labels is meant, but has none of those that are asked for.
      have hbare : InScope excluded ∅ := ⟨nofun, fun _ _ => nofun⟩
      refine Dict.ext_get? fun key => Option.eq_none_iff_forall_ne_some.2 fun value hvalue => ?_
      exact absurd (((hall ∅).2 hbare).1 key value hvalue) nofun
    · intro hempty labels
      rw [hempty]
      exact and_iff_right fun key value hvalue => nomatch hvalue
  · have hnone : ∀ sel, stored = some sel → ¬ Worded excluded sel :=
      fun sel hsel hw => hworded ⟨sel, hsel, hw⟩
    rw [settledNamespaces_of_not_worded hnone]
    refine iff_of_true (fun labels => ?_) fun ⟨sel, hsel, hw, _⟩ => hnone sel hsel hw
    rw [Option.getD_some, selects_iff rfl (.refl _)]
    exact and_iff_right fun key value hvalue => nomatch hvalue

/-! ## The entries of a configuration -/

def namedEntry (name : String) (w : Webhook) : Bool := decide (w.name = name)

/-- The entries are those of the names exactly if their names are a rearrangement of
them. -/
theorem hasEntries_iff_perm {names : List String} (hnodup : names.Nodup)
    {webhooks : List Webhook} :
    HasEntries names webhooks ↔ (webhooks.map (·.name)).Perm names := by
  rw [← Keyed.length_and_subset_iff_perm hnodup, List.length_map]
  refine and_congr_right fun _ => ?_
  simp only [List.all_eq_true, List.any_eq_true, decide_eq_true_eq, List.subset_def, List.mem_map]

/-- Of each wanted name there is one entry to start from, and one that comes of it. -/
theorem exists_filter_keptEntries {names : List String} {change : Webhook → Webhook}
    (hname : ∀ w, (change w).name = w.name) (hnodup : names.Nodup) {name : String}
    (hmem : name ∈ names) (webhooks : List Webhook) :
    ∃ w, w.name = name ∧ (keptEntries names webhooks).filter (namedEntry name) = [w] ∧
      ((keptEntries names webhooks).map change).filter (namedEntry name) = [change w] := by
  have hperm := (hasEntries_iff_perm hnodup).1 (hasEntries_keptEntries names webhooks)
  generalize keptEntries names webhooks = kept at hperm
  have hcount : (kept.filter (namedEntry name)).length = 1 := by
    have hone := List.count_eq_one_of_mem hnodup hmem
    rw [← hperm.count_eq, List.count_eq_length_filter, List.filter_map, List.length_map] at hone
    exact hone
  obtain ⟨w, hw⟩ := List.length_eq_one_iff.1 hcount
  have hwname : w ∈ kept.filter (namedEntry name) := hw ▸ List.mem_singleton_self w
  refine ⟨w, of_decide_eq_true (List.mem_filter.1 hwname).2, hw, ?_⟩
  have hnamed : namedEntry name ∘ change = namedEntry name :=
    funext fun v => by simp only [Function.comp_apply, namedEntry, hname]
  rw [List.filter_map, hnamed, hw, List.map_singleton]

theorem validatingEntry_namespaceSelector (kubelet : String) (tls : TlsMaterial)
    (spec : Agent.Spec) {w : Webhook} (h : w.name ≠ validatingNamespacesName) :
    (validatingEntry kubelet tls spec w).namespaceSelector
      = settledNamespaces [spec.namespace] w.namespaceSelector := by
  simp only [validatingEntry_eq, if_neg h]

theorem mutatingEntry_namespaceSelector (kubelet : String) (tls : TlsMaterial)
    (spec : Agent.Spec) (w : Webhook) :
    (mutatingEntry kubelet tls spec w).namespaceSelector
      = settledNamespaces [spec.namespace, systemNamespace] w.namespaceSelector := by
  rw [mutatingEntry_eq]

/-- The namespaces that an entry is not meant to review, if it is to review some and not
others. -/
def Component.excluded? (c : Component) (spec : Agent.Spec) (entry : String) :
    Option (List String) :=
  match c with
  | .validatingWebhook => if entry = validatingResourcesName then some [spec.namespace] else none
  | .mutatingWebhook =>
    if entry = mutatingResourcesName then some [spec.namespace, systemNamespace] else none
  | _ => none

theorem Component.excluded?_eq_some {entry : String}
    (h : c.excluded? spec entry = some excluded) :
    (c = .validatingWebhook ∧ entry = validatingResourcesName ∧ excluded = [spec.namespace]) ∨
      (c = .mutatingWebhook ∧ entry = mutatingResourcesName ∧
        excluded = [spec.namespace, systemNamespace]) := by
  cases c
  case validatingWebhook =>
    obtain ⟨hname, hexcluded⟩ := Option.ite_none_right_eq_some.1 h
    exact .inl ⟨rfl, hname, (Option.some.inj hexcluded).symm⟩
  case mutatingWebhook =>
    obtain ⟨hname, hexcluded⟩ := Option.ite_none_right_eq_some.1 h
    exact .inr ⟨rfl, hname, (Option.some.inj hexcluded).symm⟩
  all_goals cases h

/-- What holds of an entry whose selector is settled, in whichever configuration. -/
theorem exists_reviews_iff {names : List String} {change : Webhook → Webhook}
    (hname : ∀ w, (change w).name = w.name) (hnodup : names.Nodup) {entry : String}
    (hmem : entry ∈ names)
    (hselector : ∀ w, w.name = entry →
      (change w).namespaceSelector = settledNamespaces excluded w.namespaceSelector)
    (webhooks : List Webhook) :
    ∃ w w₁, (keptEntries names webhooks).filter (namedEntry entry) = [w] ∧
      ((keptEntries names webhooks).map change).filter (namedEntry entry) = [w₁] ∧
      ((∀ labels, w₁.reviews labels = true ↔ InScope excluded labels)
        ↔ ¬ Narrowed excluded w.namespaceSelector) := by
  obtain ⟨w, hw, hkept, hchanged⟩ := exists_filter_keptEntries hname hnodup hmem webhooks
  refine ⟨w, change w, hkept, hchanged, ?_⟩
  simp only [Webhook.reviews, hselector w hw]
  exact settledNamespaces_selects_iff _ _

/-- **What the enforcer reviews.** The entry for resources of either configuration reviews
just the namespaces that are meant, unless a narrower stored selector is kept. -/
theorem Component.reviews_iff {entry : String} (hentry : c.excluded? spec entry = some excluded)
    (h : c.mutate s spec o = .ok o₁) :
    ∃ w w₁, (keptEntries c.entryNames o.entries).filter (namedEntry entry) = [w] ∧
      o₁.entries.filter (namedEntry entry) = [w₁] ∧
      ((∀ labels, w₁.reviews labels = true ↔ InScope excluded labels)
        ↔ ¬ Narrowed excluded w.namespaceSelector) := by
  obtain ⟨rfl, rfl, rfl⟩ | ⟨rfl, rfl, rfl⟩ := excluded?_eq_some hentry
  · cases Component.change_of_mutate h with
    | deployment d hp => cases hp
    | service d hp => cases hp
    | @validatingWebhook d tls htls =>
      have hne : validatingResourcesName ≠ validatingNamespacesName := by decide
      have hreviews := exists_reviews_iff (validatingEntry_name s.kubelet tls spec) (by decide)
        (List.mem_cons_self .. : validatingResourcesName ∈ Component.validatingWebhook.entryNames)
        (fun w hw => validatingEntry_namespaceSelector s.kubelet tls spec (hw ▸ hne)) d.webhooks
      simpa only [Object.entries, entryNames, withValidatingEntries, withEntries_eq,
        withConfigurationLabels] using hreviews
  · cases Component.change_of_mutate h with
    | deployment d hp => cases hp
    | service d hp => cases hp
    | @mutatingWebhook d tls htls =>
      have hreviews := exists_reviews_iff (mutatingEntry_name s.kubelet tls spec) (by decide)
        (List.mem_cons_self .. : mutatingResourcesName ∈ Component.mutatingWebhook.entryNames)
        (fun w _ => mutatingEntry_namespaceSelector s.kubelet tls spec w) d.webhooks
      simpa only [Object.entries, entryNames, withMutatingEntries, withEntries_eq,
        withConfigurationLabels] using hreviews

/-- A spec with the defaults for all that may be left out. -/
def bareSpec : Agent.Spec :=
  { account := "acc", clusterName := "c", version := "1.0.0", «namespace» := "agents" }

/-- A mutating configuration whose entry has the wanted expressions in another order. -/
def reorderedScope : Kube.WebhookConfiguration :=
  { webhooks :=
      [{ name := mutatingResourcesName
         namespaceSelector := some
           { matchExpressions := some
               [notIn "kubernetes.io/metadata.name" ["agents", systemNamespace],
                 notIn "octarine" ["ignore"]] } }] }

theorem reviews_reorderedScope :
    ∃ o₁, Component.mutatingWebhook.mutate { tls := some default } bareSpec
        (.mutatingWebhookConfiguration reorderedScope) = .ok o₁ ∧
      ∃ w₁, o₁.entries.filter (namedEntry mutatingResourcesName) = [w₁] ∧
        ∀ labels, w₁.reviews labels = true ↔ InScope ["agents", systemNamespace] labels := by
  have h : Component.Change { tls := some default } bareSpec .mutatingWebhook
      (.mutatingWebhookConfiguration reorderedScope) _ := .mutatingWebhook _ rfl
  have hscope : Component.mutatingWebhook.excluded? bareSpec mutatingResourcesName
      = some ["agents", systemNamespace] := rfl
  obtain ⟨w, w₁, hw, hw₁, hiff⟩ := Component.reviews_iff hscope h.mutate
  refine ⟨_, h.mutate, w₁, hw₁, hiff.2 fun hnarrowed => ?_⟩
  cases hw
  obtain ⟨sel, hsel, -, hlabels⟩ := hnarrowed
  cases hsel
  exact hlabels rfl

/-- A validating configuration in which the entry for resources has just the wanted
expressions, and is kept to one team's namespaces. -/
def teamScope : Kube.WebhookConfiguration :=
  { webhooks :=
      [{ name := validatingResourcesName
         namespaceSelector := some
           { matchExpressions := some (reviewedNamespaces ["agents"])
             matchLabels := some ((∅ : Dict String).insert "team" "x") } },
        { name := validatingNamespacesName }] }

/-- The other namespaces stay unreviewed. -/
theorem teamScope_stays :
    ∃ o₁, Component.validatingWebhook.mutate { tls := some default } bareSpec
        (.validatingWebhookConfiguration teamScope) = .ok o₁ ∧
      ∃ w₁, o₁.entries.filter (namedEntry validatingResourcesName) = [w₁] ∧
        InScope ["agents"] ∅ ∧ w₁.reviews ∅ = false := by
  have h : Component.Change { tls := some default } bareSpec .validatingWebhook
      (.validatingWebhookConfiguration teamScope) _ := .validatingWebhook _ rfl
  exact ⟨_, h.mutate, _, rfl, ⟨nofun, fun _ _ => nofun⟩, rfl⟩

end AgentOperator.Dataplane
