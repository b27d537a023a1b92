import AgentOperator.Kube.ApiVersion
import AgentOperator.Kube.Meta

/-!
AgentOperator.Kube.Config — config maps, secrets and priority classes.
-/

namespace AgentOperator.Kube

structure ConfigMap where
  metadata : ObjectMeta := {}
  binaryData : Option (Dict Bytes) := none
  data : Option (Dict String) := none
  «immutable» : Option Bool := none
deriving DecidableEq, Inhabited

def ConfigMap.codec : Codec ConfigMap := Record.codec <| typed "v1" "ConfigMap" <|
  ConfigMap.mk <$> .required "metadata" (·.metadata) ObjectMeta.codec
    <*> .optional "binaryData" (·.binaryData) (.dict .bytes)
    <*> .optional "data" (·.data) (.dict .string)
    <*> .optional "immutable" (·.immutable) .bool

structure Secret where
  metadata : ObjectMeta := {}
  data : Option (Dict Bytes) := none
  «immutable» : Option Bool := none
  stringData : Option (Dict String) := none
  type : Option String := none
deriving DecidableEq, Inhabited

def Secret.codec : Codec Secret := Record.codec <| typed "v1" "Secret" <|
  Secret.mk <$> .required "metadata" (·.metadata) ObjectMeta.codec
    <*> .optional "data" (·.data) (.dict .bytes)
    <*> .optional "immutable" (·.immutable) .bool
    <*> .optional "stringData" (·.stringData) (.dict .string)
    <*> .optional "type" (·.type) .string

/-! ## Priority classes -/

structure PriorityClassFields where
  metadata : ObjectMeta := {}
  description : Option String := none
  globalDefault : Option Bool := none
  preemptionPolicy : Option String := none
  value : Int32 := 0
deriving DecidableEq, Inhabited

def PriorityClassFields.record : Record PriorityClassFields PriorityClassFields :=
  PriorityClassFields.mk <$> .required "metadata" (·.metadata) ObjectMeta.codec
    <*> .optional "description" (·.description) .string
    <*> .optional "globalDefault" (·.globalDefault) .bool
    <*> .optional "preemptionPolicy" (·.preemptionPolicy) .string
    <*> .required "value" (·.value) .int32

/-- A priority class of one API generation. -/
structure PriorityClass extends PriorityClassFields where
  version : SchedulingVersion := .v1
deriving DecidableEq, Inhabited

namespace PriorityClass

/-- The generations differ in nothing but the written `apiVersion`. -/
def encode (p : PriorityClass) : Json :=
  (typed p.version.apiVersion "PriorityClass" PriorityClassFields.record).codec.encode
    p.toPriorityClassFields

/-- Reads a priority class as one of a given generation, whatever generation it
says it is. Null is read as an object without members. -/
def decode (version : SchedulingVersion) (j : Json) : Except WireError PriorityClass := do
  let j := if j = .null then .obj [] else j
  let kinded := Record.after (.constant "kind" "PriorityClass") PriorityClassFields.record
  return { (← kinded.codec.decode j) with version }

end PriorityClass

end AgentOperator.Kube
