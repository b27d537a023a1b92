import AgentOperator.Proofs.History

/-!
AgentOperator.Proofs.Scraping — the mark by which pods are scraped, under one spec after
another.

The deployments mark their pods either way, with `true` or `false`, so that the mark is that
of the last spec (`Component.Change.scrapeMark?_deployment`). The node agent writes the mark
only if there is something to scrape, and annotations are not taken away: its pods are marked
as soon as one spec had it so (`scrapeMark?_mutateAll`), and follow the last spec only if no
earlier one did (`scraping_follows_iff`).
-/

namespace AgentOperator.Dataplane

open Kube (Object)
open Workload

variable {c : Component} {s : Surroundings} {spec : Agent.Spec} {o o₁ : Object}

/-- What the pods of an object say about scraping. -/
def scrapeMark? (o : Object) : Option String := (o.templateAnnotations.getD ∅).get? scrapeKey

theorem Component.Change.scrapeMark?_eq (h : Component.Change s spec c o o₁) :
    scrapeMark? o₁ = ((c.annotations s.nodes spec).2.get? scrapeKey).or (scrapeMark? o) := by
  rw [scrapeMark?, h.annotations.2, get?_enforceEntries]
  rfl

/-! ## Deployments -/

/-- The metrics of a deployment that exports some, and the user's annotations of its pods. -/
def Component.exporter? (c : Component) (spec : Agent.Spec) :
    Option (Agent.Prometheus × Dict String) :=
  let basic := spec.components.basic
  match c with
  | .enforcer => some (basic.enforcer.prometheus, basic.enforcer.podTemplateAnnotations)
  | .resolver =>
    let resolver := spec.components.runtimeProtection.resolver
    some (resolver.prometheus, resolver.podTemplateAnnotations)
  | .imageScanningReporter =>
    let reporter := spec.components.clusterScanning.imageScanningReporter
    some (reporter.prometheus, reporter.podTemplateAnnotations)
  | _ => none

theorem Component.annotations_of_exporter? {nodes : Option UInt64} {metrics : Agent.Prometheus}
    {user : Dict String} (h : c.exporter? spec = some (metrics, user)) :
    (c.annotations nodes spec).2 = metricsAnnotations metrics user := by
  cases c <;> simp only [exporter?, reduceCtorEq, Option.some.injEq, Prod.mk.injEq] at h <;>
    obtain ⟨rfl, rfl⟩ := h <;> rfl

theorem get?_metricsAnnotations (metrics : Agent.Prometheus) {user : Dict String}
    (h : user.get? scrapeKey = none) :
    (metricsAnnotations metrics user).get? scrapeKey = some (boolText metrics.enabled) := by
  let written := [(scrapeKey, boolText metrics.enabled), (metricsPortKey, intText metrics.port)]
  have hkeys : (written.map (·.1)).Nodup := by
    show [scrapeKey, metricsPortKey].Nodup
    decide
  rw [metricsAnnotations, Dict.get?_overlay, h, Option.none_or]
  exact (Entries.find?_ofList scrapeKey hkeys).trans (if_pos rfl)

/-- A deployment that exports metrics marks its pods either way, unless the user does. -/
theorem Component.Change.scrapeMark?_deployment {metrics : Agent.Prometheus} {user : Dict String}
    (h : Component.Change s spec c o o₁) (hexporter : c.exporter? spec = some (metrics, user))
    (huser : user.get? scrapeKey = none) : scrapeMark? o₁ = some (boolText metrics.enabled) := by
  rw [h.scrapeMark?_eq, annotations_of_exporter? hexporter, get?_metricsAnnotations metrics huser]
  rfl

/-! ## The node agent -/

/-- Some enabled component of the node agent exports metrics. -/
def ExportsMetrics (spec : Agent.Spec) : Prop :=
  let runtime := spec.components.runtimeProtection
  let scanning := spec.components.clusterScanning
  runtime.enabled = true ∧ runtime.sensor.prometheus.enabled = true ∨
    scanning.enabled = true ∧ scanning.clusterScanner.prometheus.enabled = true

/-- The user's annotations for the pods of the node agent say nothing about scraping. -/
structure LeavesMark (spec : Agent.Spec) : Prop where
  sensor :
    spec.components.runtimeProtection.sensor.podTemplateAnnotations.get? scrapeKey = none
  scanner :
    spec.components.clusterScanning.clusterScanner.podTemplateAnnotations.get? scrapeKey = none

theorem nodeAgentScraped_iff (spec : Agent.Spec) :
    nodeAgentScraped spec = true ↔ ExportsMetrics spec := by
  simp [nodeAgentScraped, ExportsMetrics]

theorem get?_nodeAgentTemplateAnnotations (h : LeavesMark spec) :
    (nodeAgentTemplateAnnotations spec).get? scrapeKey
      = if nodeAgentScraped spec then some "true" else none := by
  simp only [nodeAgentTemplateAnnotations]
  split
  · rw [Dict.get?_insert_self]
  · rw [Dict.get?_overlay, get?_entriesIf, get?_entriesIf, h.sensor, h.scanner, ite_self, ite_self]
    rfl

/-- A spec with something to scrape marks the pods, and any other leaves the mark as it is. -/
theorem Component.Change.scrapeMark?_nodeAgent (h : Component.Change s spec .nodeAgent o o₁)
    (hspec : LeavesMark spec) :
    scrapeMark? o₁ = if nodeAgentScraped spec then some "true" else scrapeMark? o := by
  have hwritten : (Component.nodeAgent.annotations s.nodes spec).2.get? scrapeKey
      = if nodeAgentScraped spec then some "true" else none :=
    get?_nodeAgentTemplateAnnotations hspec
  rw [h.scrapeMark?_eq, hwritten]
  split <;> rfl

/-- So a mark that was ever written is there in the end. -/
theorem scrapeMark?_mutateAll (s : Agent.Spec → Surroundings) (kubelet : String)
    {specs : List Agent.Spec} (hspecs : ∀ spec ∈ specs, LeavesMark spec) :
    ∃ o, Component.nodeAgent.mutateAll s specs (Component.nodeAgent.emptyObject kubelet) = .ok o ∧
      o.kind = .daemonSet ∧
      scrapeMark? o = if specs.any nodeAgentScraped then some "true" else none := by
  induction specs using List.reverseRecOn with
  | nil => exact ⟨_, rfl, rfl, rfl⟩
  | append_singleton specs spec ih =>
    obtain ⟨o, hall, hkind, hmark⟩ := ih fun sp hsp => hspecs sp (List.mem_append_left _ hsp)
    obtain ⟨o₁, hchange⟩ :=
      Component.exists_change (c := .nodeAgent) (s := s spec) spec hkind rfl
    have hspec := hspecs spec (List.mem_append_right _ (List.mem_singleton_self spec))
    refine ⟨o₁, ?_, hchange.kind_eq, ?_⟩
    · rw [Component.mutateAll_concat, hall]
      exact hchange.mutate
    · simp only [hchange.scrapeMark?_nodeAgent hspec, hmark, List.any_append, List.any_cons,
        List.any_nil, Bool.or_false]
      cases nodeAgentScraped spec <;> cases specs.any nodeAgentScraped <;> rfl

/-- **Scraping and the last spec.** The pods of the node agent are marked for scraping just if
some spec so far had something to scrape. So the mark follows the last spec just if that one
has, or if none before it had. -/
theorem scraping_follows_iff (s : Agent.Spec → Surroundings) (kubelet : String)
    (specs : List Agent.Spec) (spec : Agent.Spec)
    (h : ∀ sp ∈ specs ++ [spec], LeavesMark sp) :
    ∃ o, Component.nodeAgent.mutateAll s (specs ++ [spec])
          (Component.nodeAgent.emptyObject kubelet) = .ok o ∧
      (scrapeMark? o = some "true" ↔ ∃ sp ∈ specs ++ [spec], ExportsMetrics sp) ∧
      ((scrapeMark? o = some "true" ↔ ExportsMetrics spec)
        ↔ ExportsMetrics spec ∨ ∀ sp ∈ specs, ¬ ExportsMetrics sp) := by
  obtain ⟨o, hall, -, hmark⟩ := scrapeMark?_mutateAll s kubelet h
  have hever : scrapeMark? o = some "true" ↔ ∃ sp ∈ specs ++ [spec], ExportsMetrics sp := by
    simp only [hmark, ite_eq_left_iff, reduceCtorEq, imp_false, not_not, List.any_eq_true,
      nodeAgentScraped_iff]
  refine ⟨o, hall, hever, ?_⟩
  rw [hever]
  simp only [List.mem_append, List.mem_singleton, or_and_right, exists_or, exists_eq_left]
  by_cases hlast : ExportsMetrics spec
  · simp [hlast]
  · simp [hlast]

/-- A spec with the sensor alone, which exports metrics or not. -/
def sensorExports (on : Bool) : Agent.Spec :=
  { account := "acc"
    clusterName := "c"
    version := "1.0.0"
    components :=
      { runtimeProtection := { sensor := { prometheus := { enabled := on } } }
        clusterScanning := { enabled := false } } }

theorem leavesMark_sensorExports (on : Bool) : LeavesMark (sensorExports on) := ⟨rfl, rfl⟩

theorem exportsMetrics_sensorExports (on : Bool) : ExportsMetrics (sensorExports on) ↔ on = true :=
  by simp [ExportsMetrics, sensorExports]

/-- Metrics that are turned on are scraped. -/
theorem scraped_once_exported :
    (∀ sp ∈ [sensorExports false] ++ [sensorExports true], LeavesMark sp) ∧
      ∃ o, Component.nodeAgent.mutateAll (fun _ => {})
            ([sensorExports false] ++ [sensorExports true])
            (Component.nodeAgent.emptyObject "v1.20.0") = .ok o ∧
        (scrapeMark? o = some "true" ↔ ExportsMetrics (sensorExports true)) := by
  have hspecs : ∀ sp ∈ [sensorExports false] ++ [sensorExports true], LeavesMark sp := by
    simp [leavesMark_sensorExports]
  obtain ⟨o, hall, -, hfollows⟩ := scraping_follows_iff (fun _ => {}) "v1.20.0" _ _ hspecs
  exact ⟨hspecs, o, hall, hfollows.2 (.inl ((exportsMetrics_sensorExports true).2 rfl))⟩

/-- And still are when they are turned off again. -/
theorem scraped_after_turned_off :
    ∃ o, Component.nodeAgent.mutateAll (fun _ => {})
          [sensorExports true, sensorExports false]
          (Component.nodeAgent.emptyObject "v1.20.0") = .ok o ∧
      (∀ sp ∈ [sensorExports true, sensorExports false], LeavesMark sp) ∧
      ¬ (scrapeMark? o = some "true" ↔ ExportsMetrics (sensorExports false)) := by
  have hspecs : ∀ sp ∈ [sensorExports true, sensorExports false], LeavesMark sp := by
    simp [leavesMark_sensorExports]
  obtain ⟨o, hall, -, hmark⟩ := scrapeMark?_mutateAll (fun _ => {}) "v1.20.0" hspecs
  have hstays : scrapeMark? o = some "true" := hmark
  refine ⟨o, hall, hspecs, fun hfollows => ?_⟩
  exact absurd ((exportsMetrics_sensorExports false).1 (hfollows.1 hstays)) Bool.false_ne_true

end AgentOperator.Dataplane
