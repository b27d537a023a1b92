import AgentOperator.Proofs.Deployments
import AgentOperator.Proofs.Eligibility

/-!
AgentOperator.Proofs.NodeTerms — the one required term that a pod is left with.

A stored term passes as carrying a requirement if one of its expressions has the key, the
operator, as many values and among them all that are wanted. Wanted values that are distinct
leave no room for others, so the expressions that pass are those that restate the requirement
with its values in some order (`meets_iff_restates`). An expression that asks for the same but
names a value twice does not pass, and its term is replaced (`repeated_value_replaced`).
-/

namespace AgentOperator.Workload

open Kube (AlikeBesideRequired NodeSelector NodeSelectorRequirement NodeSelectorTerm PodSpec
  requiredNodes?)

/-! ## Expressions for a requirement -/

/-- The expression is the requirement, but for the order of its values. -/
structure Restates (r d : NodeSelectorRequirement) : Prop where
  key : r.key = d.key
  operator : r.operator = d.operator
  values : (r.values.getD []).Perm (d.values.getD [])

/-- The expression has the key, the operator and the set of values of the requirement. -/
structure AsksAlike (r d : NodeSelectorRequirement) : Prop where
  key : r.key = d.key
  operator : r.operator = d.operator
  values : ∀ v, v ∈ r.values.getD [] ↔ v ∈ d.values.getD []

theorem Restates.refl (d : NodeSelectorRequirement) : Restates d d := ⟨rfl, rfl, .refl _⟩

theorem Restates.asksAlike {r d : NodeSelectorRequirement} (h : Restates r d) : AsksAlike r d :=
  ⟨h.key, h.operator, fun _ => h.values.mem_iff⟩

theorem meets_iff_restates {r d : NodeSelectorRequirement} (hd : (d.values.getD []).Nodup) :
    meets r d = true ↔ Restates r d := by
  unfold meets
  dsimp only
  rw [Bool.and_assoc, Bool.and_eq_true, Bool.and_eq_true, Keyed.passes_iff_perm hd,
    decide_eq_true_eq, decide_eq_true_eq]
  exact ⟨fun ⟨⟨hkey, hoperator⟩, hvalues⟩ => ⟨hkey, hoperator, hvalues⟩,
    fun h => ⟨⟨h.key, h.operator⟩, h.values⟩⟩

/-! ## Terms -/

/-- Each requirement is restated by an expression of the term. -/
def RestatesAll (requirements : List NodeSelectorRequirement) (term : NodeSelectorTerm) : Prop :=
  ∀ d ∈ requirements, ∃ r ∈ term.matchExpressions.getD [], Restates r d

/-- The term that requirements are written as. -/
def termOf (requirements : List NodeSelectorRequirement) : NodeSelectorTerm :=
  { matchExpressions := some requirements }

theorem restatesAll_termOf (requirements : List NodeSelectorRequirement) :
    RestatesAll requirements (termOf requirements) :=
  fun d hd => ⟨d, hd, .refl d⟩

variable {requirements : List NodeSelectorRequirement}

theorem carriesAll_iff_restatesAll (hdistinct : ∀ d ∈ requirements, (d.values.getD []).Nodup)
    {s : NodeSelector} : carriesAll requirements s = true ↔
      ∃ term, s.nodeSelectorTerms = [term] ∧ RestatesAll requirements term := by
  have hterm : ∀ term : NodeSelectorTerm,
      (requirements.all fun d => (term.matchExpressions.getD []).any (meets · d)) = true
        ↔ RestatesAll requirements term := by
    intro term
    simp only [List.all_eq_true, List.any_eq_true]
    refine forall₂_congr fun d hd => exists_congr fun r => and_congr_right fun _ => ?_
    exact meets_iff_restates (hdistinct d hd)
  unfold carriesAll
  split
  · rename_i term hterms
    rw [hterm, hterms]
    simp only [List.cons.injEq, and_true, exists_eq_left']
  · rename_i hterms
    simpa using fun term hone => absurd hone (hterms term)

/-- Required terms are kept as a single term that restates everything, or replaced. -/
theorem requireAll_kept_or_replaced (hdistinct : ∀ d ∈ requirements, (d.values.getD []).Nodup)
    (s : NodeSelector) :
    (∃ term, s.nodeSelectorTerms = [term] ∧ RestatesAll requirements term ∧
        requireAll requirements s = s) ∨
      (¬ ∃ term, s.nodeSelectorTerms = [term] ∧ RestatesAll requirements term) ∧
        (requireAll requirements s).nodeSelectorTerms = [termOf requirements] := by
  by_cases h : carriesAll requirements s = true
  · obtain ⟨term, hterms, hall⟩ := (carriesAll_iff_restatesAll hdistinct).1 h
    exact .inl ⟨term, hterms, hall, requireAll_of_carries h⟩
  · refine .inr ⟨fun hterm => h ((carriesAll_iff_restatesAll hdistinct).2 hterm), ?_⟩
    rw [requireAll, if_neg h]
    rfl

/-! ## Pods -/

/-- The terms of which a pod's node must meet one. -/
def requiredTerms (pod : PodSpec) : List NodeSelectorTerm :=
  ((requiredNodes? pod.affinity).getD {}).nodeSelectorTerms

theorem requiredNodes?_eq (pod : PodSpec) :
    requiredNodes? pod.affinity = ((pod.affinity.getD {}).nodeAffinity.getD {}).required := by
  cases haffinity : pod.affinity with
  | none => rfl
  | some affinity =>
    cases hnodes : affinity.nodeAffinity <;> simp [requiredNodes?, hnodes]

theorem requiredTerms_withNodeTerms (pod : PodSpec) :
    requiredTerms (withNodeTerms requirements pod)
      = (requireAll requirements ((requiredNodes? pod.affinity).getD {})).nodeSelectorTerms := by
  rw [requiredNodes?_eq]
  rfl

theorem withNodeTerms_alike (pod : PodSpec) :
    AlikeBesideRequired (withNodeTerms requirements pod).affinity pod.affinity := by
  unfold withNodeTerms
  cases pod.affinity with
  | none => exact ⟨rfl, rfl, rfl⟩
  | some affinity =>
    obtain ⟨nodes, _, _⟩ := affinity
    cases nodes <;> exact ⟨rfl, rfl, rfl⟩

theorem withNodeTerms_withNodeTerms (pod : PodSpec) :
    withNodeTerms requirements (withNodeTerms requirements pod)
      = withNodeTerms requirements pod :=
  congrArg (fun affinity => { pod with affinity := some affinity })
    (settledAffinity_settled requirements pod.affinity)

/-- **Terms are kept or replaced.** A pod is left with one required term, in which each
requirement is restated. It is the one that was required before exactly if there was just one
and that restated each requirement; otherwise it holds the requirements and nothing else. The
rest of the pod is left alone, and doing it again changes nothing. -/
theorem node_terms_kept_or_replaced
    (hdistinct : ∀ d ∈ requirements, (d.values.getD []).Nodup) (pod : PodSpec) :
    (∃ term, requiredTerms (withNodeTerms requirements pod) = [term] ∧
      RestatesAll requirements term ∧
      (requiredTerms pod = [term] ↔
        ∃ stored, requiredTerms pod = [stored] ∧ RestatesAll requirements stored) ∧
      (requiredTerms pod ≠ [term] → term = termOf requirements)) ∧
    AlikeBesideRequired (withNodeTerms requirements pod).affinity pod.affinity ∧
    { withNodeTerms requirements pod with affinity := pod.affinity } = pod ∧
    withNodeTerms requirements (withNodeTerms requirements pod)
      = withNodeTerms requirements pod := by
  refine ⟨?_, withNodeTerms_alike pod, rfl, withNodeTerms_withNodeTerms pod⟩
  rw [requiredTerms_withNodeTerms]
  rcases requireAll_kept_or_replaced hdistinct ((requiredNodes? pod.affinity).getD {}) with
    ⟨term, hterms, hall, hsame⟩ | ⟨hnone, hreplaced⟩
  · rw [hsame]
    exact ⟨term, hterms, hall, ⟨fun hkept => ⟨term, hkept, hall⟩, fun _ => hterms⟩,
      fun hlost => absurd hterms hlost⟩
  · refine ⟨termOf requirements, hreplaced, restatesAll_termOf requirements, ?_, fun _ => rfl⟩
    -- A stored term that is the one to be written would have been kept.
    exact ⟨fun hkept => ⟨_, hkept, restatesAll_termOf requirements⟩,
      fun hstored => absurd hstored hnone⟩

/-- A pod with a single required term. -/
def podRequiring (expressions : List NodeSelectorRequirement) : PodSpec :=
  { affinity := some
      { nodeAffinity := some
          { required := some { nodeSelectorTerms := [termOf expressions] } } } }

/-- The values of a requirement may be stored in another order, between other expressions. -/
theorem node_terms_kept_on_arch :
    (∀ d ∈ [onLinux, labelIn "arch" ["amd64", "arm64"]], (d.values.getD []).Nodup) ∧
    let pod := podRequiring
      [labelIn "arch" ["arm64", "amd64"], labelIn "pool" ["security"], onLinux]
    requiredTerms (withNodeTerms [onLinux, labelIn "arch" ["amd64", "arm64"]] pod)
      = requiredTerms pod := by
  have hdistinct : ∀ d ∈ [onLinux, labelIn "arch" ["amd64", "arm64"]],
      (d.values.getD []).Nodup := by decide
  refine ⟨hdistinct, ?_⟩
  obtain ⟨⟨term, hterm, -, hkept, -⟩, -⟩ := node_terms_kept_or_replaced hdistinct
    (podRequiring [labelIn "arch" ["arm64", "amd64"], labelIn "pool" ["security"], onLinux])
  refine hterm.trans (hkept.2 ⟨_, rfl, fun d hd => ?_⟩).symm
  rcases List.mem_pair.1 hd with rfl | rfl
  · exact ⟨onLinux, by decide, .refl _⟩
  · exact ⟨labelIn "arch" ["arm64", "amd64"], by decide, rfl, rfl, .swap "amd64" "arm64" []⟩

/-- A value that is named twice is wanted once: the term asks for what is required, and is
replaced nevertheless. -/
theorem repeated_value_replaced :
    (onLinux.values.getD []).Nodup ∧
    requiredTerms (podRequiring [labelIn "kubernetes.io/os" ["linux", "linux"]])
      = [termOf [labelIn "kubernetes.io/os" ["linux", "linux"]]] ∧
    AsksAlike (labelIn "kubernetes.io/os" ["linux", "linux"]) onLinux ∧
    requiredTerms (withNodeTerms [onLinux]
        (podRequiring [labelIn "kubernetes.io/os" ["linux", "linux"]]))
      ≠ requiredTerms (podRequiring [labelIn "kubernetes.io/os" ["linux", "linux"]]) :=
  ⟨by decide, rfl, ⟨rfl, rfl, fun v => by simp [labelIn, onLinux]⟩, by decide⟩

end AgentOperator.Workload
