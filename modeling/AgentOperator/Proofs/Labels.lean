import AgentOperator.Proofs.Furnishing
import AgentOperator.Proofs.References

/-!
AgentOperator.Proofs.Labels — the labels of workloads, and what selects by them.

A workload has one set of labels in three places: on its object, in its selector and on its
pods (`Component.Change.inLockstep`). They are those that the user gives it, under the name of
the workload, and that name is all that services select by (`labels_in_lockstep`).

So the selector is that of the last spec. It stays as it is just if the next spec gives the
same labels (`selector_kept_iff`).
-/

namespace AgentOperator.Kube

/-- What selects the pods that belong to a workload. -/
def Object.podSelector? : Object → Option LabelSelector
  | .deployment d => d.spec.map (·.selector)
  | .daemonSet d => d.spec.map (·.selector)
  | _ => none

/-- An object, its selector and its pods have just these labels. -/
structure Object.InLockstep (o : Object) (labels : Dict String) : Prop where
  object : o.metadata.labels = some labels
  selector : o.podSelector?.bind (·.matchLabels) = some labels
  template : (o.template?.bind (·.metadata)).bind (·.labels) = some labels

theorem Object.InLockstep.podLabels {o : Object} {labels : Dict String} (h : o.InLockstep labels) :
    o.podLabels = labels := by
  rw [Object.podLabels, h.template, Option.getD_some]

end AgentOperator.Kube

namespace AgentOperator.Dataplane

open Kube (LabelSelector Object)
open Workload

variable {c d : Component} {s : Surroundings} {spec : Agent.Spec} {o o₁ : Object}

/-! ## The labels of a workload -/

/-- The labels that a spec gives for a workload. -/
def Component.ownLabels (c : Component) (spec : Agent.Spec) : Dict String :=
  let parts := spec.components
  match c with
  | .monitor => parts.basic.monitor.labels
  | .enforcer => parts.basic.enforcer.labels
  | .stateReporter => parts.basic.stateReporter.labels
  | .resolver => parts.runtimeProtection.resolver.labels
  | .imageScanningReporter => parts.clusterScanning.imageScanningReporter.labels
  | .nodeAgent => nodeAgentLabels spec
  | _ => ∅

/-- The labels of a workload: those, and its name. -/
def Component.labels (c : Component) (spec : Agent.Spec) : Dict String :=
  desiredLabels c.objectName (c.ownLabels spec)

/-- What a user gives under a key for a workload. The node agent has what is given for its
enabled components, and for the scanner rather than for the sensor. -/
def Component.userLabel? (c : Component) (spec : Agent.Spec) (key : String) : Option String :=
  let parts := spec.components
  match c with
  | .monitor => parts.basic.monitor.labels.get? key
  | .enforcer => parts.basic.enforcer.labels.get? key
  | .stateReporter => parts.basic.stateReporter.labels.get? key
  | .resolver => parts.runtimeProtection.resolver.labels.get? key
  | .imageScanningReporter => parts.clusterScanning.imageScanningReporter.labels.get? key
  | .nodeAgent =>
    let scanner :=
      if parts.clusterScanning.enabled then
        parts.clusterScanning.clusterScanner.labels.get? key
      else none
    let sensor :=
      if parts.runtimeProtection.enabled then parts.runtimeProtection.sensor.labels.get? key
      else none
    scanner.or sensor
  | _ => none

theorem get?_ownLabels (c : Component) (spec : Agent.Spec) (key : String) :
    (c.ownLabels spec).get? key = c.userLabel? spec key := by
  cases c
  case nodeAgent =>
    simp only [Component.ownLabels, Component.userLabel?, nodeAgentLabels, Dict.get?_overlay,
      get?_entriesIf]
  all_goals rfl

theorem get?_labels (c : Component) (spec : Agent.Spec) (key : String) :
    (c.labels spec).get? key
      = if appNameLabel = key then some c.objectName else c.userLabel? spec key := by
  rw [Component.labels, desiredLabels, Dict.get?_insert, get?_ownLabels]

/-- The name is there, whatever the user gives under its key. -/
theorem get?_labels_name (c : Component) (spec : Agent.Spec) :
    (c.labels spec).get? appNameLabel = some c.objectName := by
  rw [get?_labels, if_pos rfl]

theorem get?_labels_of_ne (c : Component) (spec : Agent.Spec) {key : String}
    (h : key ≠ appNameLabel) : (c.labels spec).get? key = c.userLabel? spec key := by
  rw [get?_labels, if_neg h.symm]

theorem labels_eq_iff (c : Component) (spec spec' : Agent.Spec) :
    c.labels spec = c.labels spec'
      ↔ ∀ key, key ≠ appNameLabel → c.userLabel? spec key = c.userLabel? spec' key := by
  constructor
  · intro h key hkey
    rw [← get?_labels_of_ne c spec hkey, h, get?_labels_of_ne c spec' hkey]
  · intro h
    refine Dict.ext_get? fun key => ?_
    by_cases hkey : key = appNameLabel
    · rw [hkey, get?_labels_name, get?_labels_name]
    · rw [get?_labels_of_ne c spec hkey, get?_labels_of_ne c spec' hkey, h key hkey]

/-- A deployment's plan has its name and its labels. -/
theorem Component.deploymentPlan?_labels {nodes : Option UInt64} {p : DeploymentPlan}
    (h : c.deploymentPlan? nodes spec = some p) :
    desiredLabels p.name p.labels = c.labels spec := by
  cases c <;> cases h <;> rfl

/-! ## What a workload writes -/

theorem Component.IsWorkload.refusal (h : c.IsWorkload) (s : Surroundings) :
    c.refusal s = none := by
  cases c <;> first
    | rfl
    | exact absurd h (by simp [IsWorkload, kind])

theorem Component.refusal_of_service (h : c.kind = .service) (s : Surroundings) :
    c.refusal s = none := by
  cases c <;> first
    | rfl
    | cases h

/-- The labels are written in all three places. -/
theorem Component.Change.inLockstep (hc : c.IsWorkload) (h : Component.Change s spec c o o₁) :
    o₁.InLockstep (c.labels spec) := by
  cases h with
  | deployment d hp =>
    rw [← Component.deploymentPlan?_labels hp]
    exact ⟨rfl, rfl, rfl⟩
  | nodeAgent d => exact ⟨rfl, rfl, rfl⟩
  | service d hp =>
    rw [hc.servicePlan?_eq_none] at hp
    cases hp
  | _ => exact absurd hc (by simp [IsWorkload, kind])

/-- The expressions of a selector are left alone. -/
theorem Component.Change.podSelector?_eq (hc : c.IsWorkload)
    (h : Component.Change s spec c o o₁) :
    o₁.podSelector?
      = some { o.podSelector?.getD {} with matchLabels := some (c.labels spec) } := by
  cases h with
  | deployment d hp =>
    rw [← Component.deploymentPlan?_labels hp]
    rcases d with ⟨m, _ | spec, status⟩ <;> rfl
  | nodeAgent d => rcases d with ⟨m, _ | spec, status⟩ <;> rfl
  | service d hp =>
    rw [hc.servicePlan?_eq_none] at hp
    cases hp
  | _ => exact absurd hc (by simp [IsWorkload, kind])

/-! ## Services -/

/-- Behind every service there is a workload, by whose name it selects. -/
theorem Component.exists_backend (h : c.kind = .service) :
    ∃ d, c.backend? = some d ∧ d.IsWorkload ∧
      ∀ spec, ∃ q, c.servicePlan? spec = some q ∧ q.workload = d.objectName := by
  cases c <;> first
    | exact ⟨_, rfl, .inl rfl, fun spec => ⟨_, rfl, rfl⟩⟩
    | cases h

theorem Component.Change.selector_eq {q : ServicePlan} (hq : c.servicePlan? spec = some q)
    (h : Component.Change s spec c o o₁) : o₁.selector = .ofList [(appNameLabel, q.workload)] := by
  cases h with
  | service d hq' =>
    cases hq.symm.trans hq'
    rfl
  | deployment d hp =>
    cases c <;> simp only [Component.deploymentPlan?, Component.servicePlan?, reduceCtorEq] at hp hq
  | _ => cases hq

/-- **Labels in lockstep.** Every workload leaves its object, its selector and its pods with one
set of labels: its name, whatever the user gives under that key, and what the user gives under
any other. So the pods have what the service before them selects by, whichever specs the two
were brought to. -/
theorem labels_in_lockstep :
    (∀ (c : Component) (s : Surroundings) (spec : Agent.Spec) (o : Object),
      c.IsWorkload → o.kind = c.kind →
        ∃ o₁ labels, c.mutate s spec o = .ok o₁ ∧ o₁.InLockstep labels ∧
          labels.get? appNameLabel = some c.objectName ∧
          ∀ key, key ≠ appNameLabel → labels.get? key = c.userLabel? spec key) ∧
    ∀ (c : Component) (s : Surroundings) (spec : Agent.Spec) (o : Object),
      c.kind = .service → o.kind = .service →
        ∃ d o₁, c.backend? = some d ∧ c.mutate s spec o = .ok o₁ ∧
          o₁.selector.get? appNameLabel = some d.objectName ∧
          ∀ s' spec' w w₁, d.mutate s' spec' w = .ok w₁ →
            ∀ key value, o₁.selector.get? key = some value →
              w₁.podLabels.get? key = some value := by
  constructor
  · intro c s spec o hc hkind
    obtain ⟨o₁, hchange⟩ := Component.exists_change (s := s) spec hkind (hc.refusal s)
    exact ⟨o₁, c.labels spec, hchange.mutate, hchange.inLockstep hc, get?_labels_name c spec,
      fun key hkey => get?_labels_of_ne c spec hkey⟩
  · intro c s spec o hc hkind
    obtain ⟨d, hbackend, hd, hplan⟩ := Component.exists_backend hc
    obtain ⟨q, hq, hworkload⟩ := hplan spec
    obtain ⟨o₁, hchange⟩ :=
      Component.exists_change (s := s) spec (hkind.trans hc.symm) (Component.refusal_of_service hc s)
    have hselector : o₁.selector = (∅ : Dict String).insert appNameLabel d.objectName := by
      rw [hchange.selector_eq hq, hworkload]
      rfl
    refine ⟨d, o₁, hbackend, hchange.mutate, ?_, ?_⟩
    · rw [hselector, Dict.get?_insert_self]
    · intro s' spec' w w₁ hmutate key value hvalue
      rw [((d.change_of_mutate hmutate).inLockstep hd).podLabels]
      rw [hselector, Dict.get?_insert] at hvalue
      split at hvalue
      · rename_i hkey
        cases hvalue
        rw [← hkey, get?_labels_name]
      · cases hvalue

/-- A spec whose enforcer has labels, one of them under the key of its name. -/
def labelledEnforcer : Agent.Spec :=
  { account := "acc"
    clusterName := "c"
    version := "1.0.0"
    components :=
      { basic :=
          { enforcer :=
              { labels := .ofList [(appNameLabel, "mine"), ("team", "security")] } } } }

/-- The enforcer keeps its name among its labels, and its service finds it by that. -/
theorem labels_in_lockstep_enforcer :
    Component.enforcer.IsWorkload ∧ Component.enforcerService.kind = .service ∧
      ∃ o₁ labels service, Component.enforcer.mutate {} labelledEnforcer (.deployment {}) = .ok o₁ ∧
        o₁.InLockstep labels ∧ labels.get? appNameLabel = some enforcerName ∧
        labels.get? "team" = some "security" ∧
        Component.enforcerService.mutate {} labelledEnforcer (.service {}) = .ok service ∧
        service.selector.get? appNameLabel = some enforcerName ∧
        o₁.podLabels.get? appNameLabel = some enforcerName := by
  obtain ⟨hworkload, hservice⟩ := labels_in_lockstep
  obtain ⟨o₁, labels, hmutate, hlabels, hname, huser⟩ :=
    hworkload .enforcer {} labelledEnforcer (.deployment {}) (.inl rfl) rfl
  obtain ⟨d, service, hbackend, hmutate', hselects, hfound⟩ :=
    hservice .enforcerService {} labelledEnforcer (.service {}) rfl rfl
  cases hbackend
  have hteam : labels.get? "team" = some "security" := (huser "team" (by decide)).trans (by decide)
  exact ⟨.inl rfl, rfl, o₁, labels, service, hmutate, hlabels, hname, hteam, hmutate', hselects,
    hfound {} labelledEnforcer (.deployment {}) o₁ hmutate appNameLabel _ hselects⟩

/-! ## The selector under one spec after another -/

/-- The pods of a workload are selected by what the last of the specs gives, and by nothing
before the first. -/
theorem Component.exists_mutateAll (hc : c.IsWorkload) (s : Agent.Spec → Surroundings)
    (kubelet : String) (specs : List Agent.Spec) :
    ∃ o, c.mutateAll s specs (c.emptyObject kubelet) = .ok o ∧ o.kind = c.kind ∧
      o.podSelector? = specs.getLast?.map fun last => { matchLabels := some (c.labels last) } := by
  induction specs using List.reverseRecOn with
  | nil =>
    refine ⟨_, rfl, emptyObject_kind c kubelet, ?_⟩
    cases c <;> rfl
  | append_singleton specs spec ih =>
    obtain ⟨o, hall, hkind, hselector⟩ := ih
    obtain ⟨o₁, hchange⟩ := Component.exists_change (s := s spec) spec hkind (hc.refusal _)
    refine ⟨o₁, ?_, hchange.kind_eq, ?_⟩
    · rw [Component.mutateAll_concat, hall]
      exact hchange.mutate
    · rw [hchange.podSelector?_eq hc, hselector, List.getLast?_concat]
      cases specs.getLast? <;> rfl

/-- The selector before and after a further spec. -/
theorem Component.exists_selectors (hc : c.IsWorkload) (s : Agent.Spec → Surroundings)
    (kubelet : String) (specs : List Agent.Spec) (last spec : Agent.Spec) :
    ∃ o o₁, c.mutateAll s (specs ++ [last]) (c.emptyObject kubelet) = .ok o ∧
      c.mutate (s spec) spec o = .ok o₁ ∧
      o.podSelector? = some { matchLabels := some (c.labels last) } ∧
      o₁.podSelector? = some { matchLabels := some (c.labels spec) } := by
  obtain ⟨o, hall, hkind, hselector⟩ := Component.exists_mutateAll hc s kubelet (specs ++ [last])
  rw [List.getLast?_concat, Option.map_some] at hselector
  obtain ⟨o₁, hchange⟩ := Component.exists_change (s := s spec) spec hkind (hc.refusal _)
  refine ⟨o, o₁, hall, hchange.mutate, hselector, ?_⟩
  rw [hchange.podSelector?_eq hc, hselector]
  rfl

/-- **The selector of a stored workload.** Once specs were carried out on the empty object of a
workload, its selector has the labels that the last of them gives, and no expressions. A further
spec leaves it as it is just if it gives the workload the same labels, whatever either gives
under the key of the name. -/
theorem selector_kept_iff (hc : c.IsWorkload) (s : Agent.Spec → Surroundings) (kubelet : String)
    (specs : List Agent.Spec) (last spec : Agent.Spec) :
    ∃ o o₁, c.mutateAll s (specs ++ [last]) (c.emptyObject kubelet) = .ok o ∧
      c.mutate (s spec) spec o = .ok o₁ ∧
      o.podSelector? = some { matchLabels := some (c.labels last) } ∧
      o₁.podSelector? = some { matchLabels := some (c.labels spec) } ∧
      (o₁.podSelector? = o.podSelector?
        ↔ ∀ key, key ≠ appNameLabel → c.userLabel? spec key = c.userLabel? last key) := by
  obtain ⟨o, o₁, hall, hmutate, hselector, hselector₁⟩ :=
    Component.exists_selectors hc s kubelet specs last spec
  refine ⟨o, o₁, hall, hmutate, hselector, hselector₁, ?_⟩
  rw [hselector, hselector₁, ← labels_eq_iff]
  simp only [Option.some.injEq, LabelSelector.mk.injEq, true_and]

/-- A new version of the agent does not touch the selector. -/
theorem selector_kept_by_upgrade :
    Component.enforcer.IsWorkload ∧
      ∃ o o₁, Component.enforcer.mutateAll (fun _ => {}) [labelledEnforcer]
          (Component.enforcer.emptyObject "v1.20.0") = .ok o ∧
        Component.enforcer.mutate {} { labelledEnforcer with version := "2.0.0" } o = .ok o₁ ∧
        o₁.podSelector? = o.podSelector? := by
  obtain ⟨o, o₁, hall, hmutate, -, -, hkept⟩ :=
    selector_kept_iff (c := .enforcer) (.inl rfl) (fun _ => {}) "v1.20.0" [] labelledEnforcer
      { labelledEnforcer with version := "2.0.0" }
  exact ⟨.inl rfl, o, o₁, hall, hmutate, hkept.2 fun _ _ => rfl⟩

/-- A spec whose scanner has a label and runs, or does not. -/
def labelledScanner (on : Bool) : Agent.Spec :=
  { account := "acc"
    clusterName := "c"
    version := "1.0.0"
    components :=
      { clusterScanning :=
          { enabled := on
            clusterScanner := { labels := .ofList [("team", "security")] } } } }

/-- Turning the scanner off changes the selector of the node agent. -/
theorem selector_changes_with_scanner :
    ∃ o o₁, Component.nodeAgent.mutateAll (fun _ => {}) [labelledScanner true]
        (Component.nodeAgent.emptyObject "v1.20.0") = .ok o ∧
      Component.nodeAgent.mutate {} (labelledScanner false) o = .ok o₁ ∧
      o₁.podSelector? ≠ o.podSelector? := by
  obtain ⟨o, o₁, hall, hmutate, hselector, hselector₁⟩ :=
    Component.exists_selectors (c := .nodeAgent) (.inr rfl) (fun _ => {}) "v1.20.0" []
      (labelledScanner true) (labelledScanner false)
  refine ⟨o, o₁, hall, hmutate, fun hsame => ?_⟩
  rw [hselector, hselector₁, Option.some.injEq, LabelSelector.mk.injEq, Option.some.injEq,
    labels_eq_iff] at hsame
  exact absurd (hsame.2 "team" (by decide)) (by decide)

end AgentOperator.Dataplane
