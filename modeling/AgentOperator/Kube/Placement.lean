import AgentOperator.Kube.Parts

/-!
AgentOperator.Kube.Placement — where pods may run: node selector terms,
affinities and tolerations.
-/

namespace AgentOperator.Kube

open Schema (opt req)

structure NodeSelectorRequirement where
  key : String := ""
  operator : String := ""
  values : Option (List String) := none
deriving DecidableEq, Inhabited

def NodeSelectorRequirement.codec : Codec NodeSelectorRequirement := Record.codec <|
  NodeSelectorRequirement.mk <$> .required "key" (·.key) .string
    <*> .required "operator" (·.operator) .string
    <*> .optional "values" (·.values) (.list .string)

/-- Requirements that a node must all meet. -/
structure NodeSelectorTerm where
  matchExpressions : Option (List NodeSelectorRequirement) := none
  matchFields : Option (List NodeSelectorRequirement) := none
deriving DecidableEq, Inhabited

def NodeSelectorTerm.codec : Codec NodeSelectorTerm := Record.codec <|
  NodeSelectorTerm.mk
    <$> .optional "matchExpressions" (·.matchExpressions) (.list NodeSelectorRequirement.codec)
    <*> .optional "matchFields" (·.matchFields) (.list NodeSelectorRequirement.codec)

/-- Terms of which a node must meet one. -/
structure NodeSelector where
  nodeSelectorTerms : List NodeSelectorTerm := []
deriving DecidableEq, Inhabited

def NodeSelector.codec : Codec NodeSelector := Record.codec <|
  NodeSelector.mk <$> .required "nodeSelectorTerms" (·.nodeSelectorTerms) (.list NodeSelectorTerm.codec)

structure PreferredSchedulingTerm where
  preference : NodeSelectorTerm := {}
  weight : Int32 := 0
deriving DecidableEq, Inhabited

def PreferredSchedulingTerm.codec : Codec PreferredSchedulingTerm := Record.codec <|
  PreferredSchedulingTerm.mk <$> .required "preference" (·.preference) NodeSelectorTerm.codec
    <*> .required "weight" (·.weight) .int32

/-- Which nodes a pod prefers, and which it must have. -/
structure NodeAffinity where
  preferred : Option (List PreferredSchedulingTerm) := none
  required : Option NodeSelector := none
deriving DecidableEq, Inhabited

def NodeAffinity.codec : Codec NodeAffinity := Record.codec <|
  NodeAffinity.mk
    <$> .optional "preferredDuringSchedulingIgnoredDuringExecution" (·.preferred)
      (.list PreferredSchedulingTerm.codec)
    <*> .optional "requiredDuringSchedulingIgnoredDuringExecution" (·.required) NodeSelector.codec

structure Affinity where
  nodeAffinity : Option NodeAffinity := none
  podAffinity : Option (Carried Schema.podAffinity) := none
  podAntiAffinity : Option (Carried Schema.podAffinity) := none
deriving DecidableEq, Inhabited

def Affinity.codec : Codec Affinity := Record.codec <|
  Affinity.mk <$> .optional "nodeAffinity" (·.nodeAffinity) NodeAffinity.codec
    <*> .optional "podAffinity" (·.podAffinity) Carried.codec
    <*> .optional "podAntiAffinity" (·.podAntiAffinity) Carried.codec

structure Toleration where
  effect : Option String := none
  key : Option String := none
  operator : Option String := none
  tolerationSeconds : Option Int64 := none
  value : Option String := none
deriving DecidableEq, Inhabited

def Toleration.codec : Codec Toleration := Record.codec <|
  Toleration.mk <$> .optional "effect" (·.effect) .string
    <*> .optional "key" (·.key) .string
    <*> .optional "operator" (·.operator) .string
    <*> .optional "tolerationSeconds" (·.tolerationSeconds) .int64
    <*> .optional "value" (·.value) .string

end AgentOperator.Kube
