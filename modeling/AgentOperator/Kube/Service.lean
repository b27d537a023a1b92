import AgentOperator.Kube.Parts

/-!
AgentOperator.Kube.Service — services and their ports.
-/

namespace AgentOperator.Kube

structure ServicePort where
  appProtocol : Option String := none
  name : Option String := none
  nodePort : Option Int32 := none
  port : Int32 := 0
  protocol : Option String := none
  targetPort : Option IntOrString := none
deriving DecidableEq, Inhabited

def ServicePort.codec : Codec ServicePort := Record.codec <|
  ServicePort.mk <$> .optional "appProtocol" (·.appProtocol) .string
    <*> .optional "name" (·.name) .string
    <*> .optional "nodePort" (·.nodePort) .int32
    <*> .required "port" (·.port) .int32
    <*> .optional "protocol" (·.protocol) .string
    <*> .optional "targetPort" (·.targetPort) .intOrString

structure ServiceSpec where
  type : Option String := none
  clusterIP : Option String := none
  selector : Option (Dict String) := none
  ports : Option (List ServicePort) := none
  rest : Rest Schema.serviceFields := default
deriving DecidableEq, Inhabited

def ServiceSpec.codec : Codec ServiceSpec := Record.codec <|
  ServiceSpec.mk <$> .optional "type" (·.type) .string
    <*> .optional "clusterIP" (·.clusterIP) .string
    <*> .optional "selector" (·.selector) (.dict .string)
    <*> .optional "ports" (·.ports) (.list ServicePort.codec)
    <*> .rest (·.rest)

structure Service where
  metadata : ObjectMeta := {}
  spec : Option ServiceSpec := none
  status : Option (Carried Schema.serviceStatus) := none
deriving DecidableEq, Inhabited

def Service.codec : Codec Service := Record.codec <| typed "v1" "Service" <|
  Service.mk <$> .required "metadata" (·.metadata) ObjectMeta.codec
    <*> .optional "spec" (·.spec) ServiceSpec.codec
    <*> .optional "status" (·.status) Carried.codec

end AgentOperator.Kube
