import AgentOperator.Kube.Parts

/-!
AgentOperator.Kube.Node — the machines of a cluster and their kubelets.
-/

namespace AgentOperator.Kube

/-- What a node reports about itself. -/
structure NodeSystemInfo where
  kubeletVersion : String := ""
  rest : Rest Schema.nodeInfoFields := default
deriving DecidableEq, Inhabited

def NodeSystemInfo.codec : Codec NodeSystemInfo := Record.codec <|
  NodeSystemInfo.mk <$> .required "kubeletVersion" (·.kubeletVersion) .string
    <*> .rest (·.rest)

structure NodeStatus where
  nodeInfo : Option NodeSystemInfo := none
  rest : Rest Schema.nodeStatusFields := default
deriving DecidableEq, Inhabited

def NodeStatus.codec : Codec NodeStatus := Record.codec <|
  NodeStatus.mk <$> .optional "nodeInfo" (·.nodeInfo) NodeSystemInfo.codec
    <*> .rest (·.rest)

structure Node where
  metadata : ObjectMeta := {}
  spec : Option (Carried Schema.nodeSpec) := none
  status : Option NodeStatus := none
deriving DecidableEq, Inhabited

def Node.codec : Codec Node := Record.codec <| typed "v1" "Node" <|
  Node.mk <$> .required "metadata" (·.metadata) ObjectMeta.codec
    <*> .optional "spec" (·.spec) Carried.codec
    <*> .optional "status" (·.status) NodeStatus.codec

/-- The version of a node's kubelet, if the node reports one. -/
def Node.kubeletVersion? (n : Node) : Option String :=
  n.status.bind fun s => s.nodeInfo.map (·.kubeletVersion)

end AgentOperator.Kube
