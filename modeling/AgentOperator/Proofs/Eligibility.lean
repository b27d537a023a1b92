import AgentOperator.Kube.Node
import AgentOperator.Proofs.Overwriting
import AgentOperator.Workload.Placement

/-!
AgentOperator.Proofs.Eligibility — the nodes that a pod may run on.

Required node selector terms are read as the scheduler reads them: a node is admitted if it
meets all requirements of one term (`NodeSelector.admits`). Terms that are one term with the
requirement on the operating system are kept, and all that they admit is meant. All other terms
give way to that requirement alone, so what else they required of nodes no longer counts
(`placement_respected_iff`).
-/

namespace AgentOperator.Kube

/-! ## Reading requirements -/

/-- A whole number of 64 bits in decimal digits, with or without a sign. -/
def wholeNumber? (text : String) : Option Int :=
  let (sign, digits) : Int × List Char :=
    match text.toList with
    | '-' :: cs => (-1, cs)
    | '+' :: cs => (1, cs)
    | cs => (1, cs)
  if digits.isEmpty || !digits.all Char.isDigit then none
  else
    let value := sign * Nat.ofDigitChars 10 digits 0
    if Int64.minValue.toInt ≤ value ∧ value ≤ Int64.maxValue.toInt then some value else none

/-- Whether two texts are numbers in ascending order. -/
def ascending (a b : String) : Bool :=
  match wholeNumber? a, wholeNumber? b with
  | some m, some n => decide (m < n)
  | _, _ => false

def Node.labels (n : Node) : Dict String := n.metadata.labels.getD ∅

/-- A field of a node. The name is the only one that nodes are selected by. -/
def Node.field (n : Node) (path : String) : String :=
  if path = "metadata.name" then n.metadata.name.getD "" else ""

/-- Whether labels meet a requirement. One with values that its operator has no use for is met
by none. -/
def NodeSelectorRequirement.isMetBy (r : NodeSelectorRequirement) (labels : Dict String) : Bool :=
  let label := labels.get? r.key
  let values := r.values.getD []
  match r.operator, values with
  | "In", _ :: _ => label.any fun value => values.contains value
  | "NotIn", _ :: _ => !label.any fun value => values.contains value
  | "Exists", [] => label.isSome
  | "DoesNotExist", [] => label.isNone
  | "Gt", [bound] => label.any fun value => ascending bound value
  | "Lt", [bound] => label.any fun value => ascending value bound
  | _, _ => false

/-- Whether a node's field meets a requirement. -/
def NodeSelectorRequirement.isMetByField (r : NodeSelectorRequirement) (n : Node) : Bool :=
  match r.operator, r.values.getD [] with
  | "In", [value] => decide (n.field r.key = value)
  | "NotIn", [value] => decide (n.field r.key ≠ value)
  | _, _ => false

/-- Whether a node meets all requirements of a term. A term without any admits no node. -/
def NodeSelectorTerm.admits (t : NodeSelectorTerm) (n : Node) : Bool :=
  let expressions := t.matchExpressions.getD []
  let fields := t.matchFields.getD []
  !(expressions.isEmpty && fields.isEmpty) &&
    expressions.all (·.isMetBy n.labels) && fields.all (·.isMetByField n)

/-- Whether a node is admitted by one of the terms. -/
def NodeSelector.admits (s : NodeSelector) (n : Node) : Bool :=
  s.nodeSelectorTerms.any (·.admits n)

/-- What is required of nodes, if anything is. -/
def requiredNodes? (affinity : Option Affinity) : Option NodeSelector :=
  (affinity.bind (·.nodeAffinity)).bind (·.required)

/-- Whether a pod of this affinity may run on a node. -/
def eligible (affinity : Option Affinity) (n : Node) : Bool :=
  (requiredNodes? affinity).all (·.admits n)

/-- The affinities ask for the same but for the nodes that are required. -/
structure AlikeBesideRequired (a b : Option Affinity) : Prop where
  podAffinity : a.bind (·.podAffinity) = b.bind (·.podAffinity)
  podAntiAffinity : a.bind (·.podAntiAffinity) = b.bind (·.podAntiAffinity)
  preferred : (a.bind (·.nodeAffinity)).bind (·.preferred)
    = (b.bind (·.nodeAffinity)).bind (·.preferred)

end AgentOperator.Kube

namespace AgentOperator.Workload

open Kube (Affinity AlikeBesideRequired Node NodeSelector NodeSelectorRequirement
  NodeSelectorTerm PodSpec eligible requiredNodes?)

/-! ## The requirement on the operating system -/

def OnLinux (n : Node) : Prop := n.labels.get? "kubernetes.io/os" = some "linux"

theorem isMetBy_onLinux {labels : Dict String} :
    onLinux.isMetBy labels = true ↔ labels.get? "kubernetes.io/os" = some "linux" := by
  have hlabel : onLinux.isMetBy labels
      = (labels.get? "kubernetes.io/os").any fun value => ["linux"].contains value := rfl
  rw [hlabel, Option.any_eq_true]
  simp

/-- A requirement that passes as the one on the operating system is read like it. -/
theorem isMetBy_of_meets {r : NodeSelectorRequirement} (h : meets r onLinux = true)
    (labels : Dict String) : r.isMetBy labels = onLinux.isMetBy labels := by
  simp only [meets, Bool.and_eq_true, decide_eq_true_eq, and_assoc] at h
  obtain ⟨hkey, hoperator, hvalues⟩ := h
  have hperm : (r.values.getD []).Perm ["linux"] :=
    (Keyed.passes_iff_perm (List.pairwise_singleton _ _)).1
      (Bool.and_eq_true_iff.2 ⟨decide_eq_true hvalues.1, hvalues.2⟩)
  have hlinux : r.values.getD [] = ["linux"] := List.perm_singleton.1 hperm
  simp only [NodeSelectorRequirement.isMetBy, hkey, hoperator, hlinux]
  rfl

theorem carriesAll_onLinux {s : NodeSelector} : carriesAll [onLinux] s = true ↔
    ∃ term, s.nodeSelectorTerms = [term] ∧
      ∃ r ∈ term.matchExpressions.getD [], meets r onLinux = true := by
  unfold carriesAll
  split
  · rename_i term hterms
    simp [hterms]
  · rename_i hterms
    simpa using fun term hterm => absurd hterm (hterms term)

theorem onLinux_of_admits {t : NodeSelectorTerm} {r : NodeSelectorRequirement} {n : Node}
    (hr : r ∈ t.matchExpressions.getD []) (hmeets : meets r onLinux = true)
    (h : t.admits n = true) : OnLinux n := by
  simp only [NodeSelectorTerm.admits, Bool.and_eq_true, List.all_eq_true] at h
  have hmet := h.1.2 r hr
  rw [isMetBy_of_meets hmeets] at hmet
  exact isMetBy_onLinux.1 hmet

/-! ## Terms that are kept, and terms that are replaced -/

theorem requireAll_of_carries {requirements : List NodeSelectorRequirement} {s : NodeSelector}
    (h : carriesAll requirements s = true) : requireAll requirements s = s := if_pos h

/-- Where the terms are replaced, all linux nodes are admitted and no others. -/
theorem admits_requireAll_of_not_carries {s : NodeSelector} (h : carriesAll [onLinux] s = false)
    (n : Node) : (requireAll [onLinux] s).admits n = true ↔ OnLinux n := by
  have hreplaced : requireAll [onLinux] s
      = { nodeSelectorTerms := [{ matchExpressions := some [onLinux] }] } :=
    if_neg (Bool.eq_false_iff.1 h)
  rw [hreplaced]
  simp [NodeSelector.admits, NodeSelectorTerm.admits, isMetBy_onLinux, OnLinux]

theorem onLinux_of_admits_requireAll {s : NodeSelector} {n : Node}
    (h : (requireAll [onLinux] s).admits n = true) : OnLinux n := by
  by_cases hcarries : carriesAll [onLinux] s = true
  · rw [requireAll_of_carries hcarries] at h
    obtain ⟨term, hterms, r, hr, hmeets⟩ := carriesAll_onLinux.1 hcarries
    rw [NodeSelector.admits, hterms, List.any_cons, List.any_nil, Bool.or_false] at h
    exact onLinux_of_admits hr hmeets h
  · exact (admits_requireAll_of_not_carries (Bool.eq_false_iff.2 hcarries) n).1 h

/-! ## Placement -/

variable {nodeSelector : Dict String} {affinity : Option Affinity} {pod : PodSpec}

theorem eligible_withPlacement (n : Node) :
    eligible (withPlacement nodeSelector affinity pod).affinity n
      = (requireAll [onLinux] ((requiredNodes? affinity).getD {})).admits n := by
  cases affinity with
  | none => rfl
  | some a =>
    obtain ⟨nodes, _, _⟩ := a
    cases nodes <;> rfl

theorem nodeSelector_withPlacement :
    (withPlacement nodeSelector affinity pod).nodeSelector.getD ∅ = nodeSelector := by
  show (if nodeSelector.isEmpty then none else some nodeSelector).getD ∅ = nodeSelector
  split
  · rename_i hempty
    exact (Dict.eq_empty_of_isEmpty hempty).symm
  · rfl

theorem withPlacement_alike :
    AlikeBesideRequired (withPlacement nodeSelector affinity pod).affinity affinity := by
  cases affinity with
  | none => exact ⟨rfl, rfl, rfl⟩
  | some a =>
    obtain ⟨nodes, _, _⟩ := a
    cases nodes <;> exact ⟨rfl, rfl, rfl⟩

/-- The required terms are replaced although they kept the pod away from some linux node. -/
def Overridden (affinity : Option Affinity) : Prop :=
  ∃ s, requiredNodes? affinity = some s ∧ carriesAll [onLinux] s = false ∧
    ∃ n, OnLinux n ∧ s.admits n = false

/-- **Placement as asked for.** A placed pod runs on linux nodes, and but for the nodes that
are required it keeps what was asked for. It also keeps to the nodes that were required, unless
these terms are overridden. -/
theorem placement_respected_iff (nodeSelector : Dict String) (affinity : Option Affinity)
    (pod : PodSpec) :
    (withPlacement nodeSelector affinity pod).nodeSelector.getD ∅ = nodeSelector ∧
    AlikeBesideRequired (withPlacement nodeSelector affinity pod).affinity affinity ∧
    (∀ n, eligible (withPlacement nodeSelector affinity pod).affinity n = true → OnLinux n) ∧
    ((∀ n, eligible (withPlacement nodeSelector affinity pod).affinity n = true →
        eligible affinity n = true) ↔ ¬ Overridden affinity) := by
  simp only [eligible_withPlacement]
  refine ⟨nodeSelector_withPlacement, withPlacement_alike,
    fun _ => onLinux_of_admits_requireAll, ?_⟩
  cases hrequired : requiredNodes? affinity with
  | none =>
    -- Nothing was required of nodes, so there is nothing to lose.
    refine iff_of_true (fun n _ => ?_) fun ⟨s, hs, _⟩ => ?_
    · rw [eligible, hrequired]
      rfl
    · rw [hrequired] at hs
      cases hs
  | some s =>
    simp only [eligible, hrequired, Option.getD_some, Option.all_some, Overridden,
      Option.some.injEq, exists_eq_left']
    by_cases hcarries : carriesAll [onLinux] s = true
    · -- The terms are the user's own.
      rw [requireAll_of_carries hcarries]
      exact iff_of_true (fun _ => id) fun hoverridden =>
        absurd (hcarries.symm.trans hoverridden.1) (by decide)
    · -- All linux nodes are eligible now, so it is about these that the two may differ.
      have hnot := Bool.eq_false_iff.2 hcarries
      simp only [admits_requireAll_of_not_carries hnot, hnot, true_and, not_exists, not_and,
        Bool.not_eq_false]

/-- Pods are to run where the security pool is. -/
def securityPool : Affinity :=
  { nodeAffinity := some
      { required := some
          { nodeSelectorTerms := [{ matchExpressions := some [labelIn "pool" ["security"]] }] } } }

/-- A node of another pool. -/
def plainLinuxNode : Node :=
  { metadata := { labels := some ((∅ : Dict String).insert "kubernetes.io/os" "linux") } }

theorem securityPool_overridden :
    eligible (withPlacement ∅ (some securityPool) {}).affinity plainLinuxNode = true ∧
      eligible (some securityPool) plainLinuxNode = false := by
  decide

end AgentOperator.Workload
