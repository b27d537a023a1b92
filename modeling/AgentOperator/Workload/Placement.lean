import AgentOperator.Kube.Pod

/-!
AgentOperator.Workload.Placement — the nodes a pod is kept to.

Whatever the user asks for, a pod has one required node selector term, and it
asks for linux. A single term that carries the operator's requirements is left
as it is; otherwise the terms are replaced.
-/

namespace AgentOperator.Workload

open Kube (Affinity NodeSelector NodeSelectorRequirement PodSpec)

/-- A label must have one of the values. -/
def labelIn (key : String) (values : List String) : NodeSelectorRequirement :=
  { key, operator := "In", values := some values }

/-- Pods run on linux nodes. -/
def onLinux : NodeSelectorRequirement := labelIn "kubernetes.io/os" ["linux"]

/-- Whether a requirement has the key, the operator and as many values, among
them all the desired ones. -/
def meets (actual desired : NodeSelectorRequirement) : Bool :=
  let has := actual.values.getD []
  let wants := desired.values.getD []
  decide (actual.key = desired.key) && decide (actual.operator = desired.operator) &&
    decide (has.length = wants.length) && wants.all fun v => has.contains v

/-- Whether the selector is a single term that carries every requirement. -/
def carriesAll (requirements : List NodeSelectorRequirement) (s : NodeSelector) : Bool :=
  match s.nodeSelectorTerms with
  | [term] => requirements.all fun d => (term.matchExpressions.getD []).any (meets · d)
  | _ => false

/-- The selector itself if it carries the requirements, or one term of them. -/
def requireAll (requirements : List NodeSelectorRequirement) (s : NodeSelector) : NodeSelector :=
  if carriesAll requirements s then s
  else { nodeSelectorTerms := [{ matchExpressions := some requirements }] }

/-- Keeps a pod to nodes that meet the requirements. -/
def withNodeTerms (requirements : List NodeSelectorRequirement) (pod : PodSpec) : PodSpec :=
  let affinity := pod.affinity.getD {}
  let nodes := affinity.nodeAffinity.getD {}
  let required := requireAll requirements (nodes.required.getD {})
  { pod with
    affinity := some { affinity with nodeAffinity := some { nodes with required := some required } } }

/-- The user's node selector and affinity, and linux on top. -/
def withPlacement (nodeSelector : Dict String) (affinity : Option Affinity) (pod : PodSpec) :
    PodSpec :=
  withNodeTerms [onLinux]
    { pod with
      affinity
      nodeSelector := if nodeSelector.isEmpty then none else some nodeSelector }

end AgentOperator.Workload
