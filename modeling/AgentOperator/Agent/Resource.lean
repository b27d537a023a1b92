import AgentOperator.Agent.Spec
import AgentOperator.Kube.Meta

/-!
AgentOperator.Agent.Resource — the agent as an object of the cluster, and the
definition that makes the cluster know such objects.
-/

namespace AgentOperator.Agent

open Kube (Condition ObjectMeta OwnerReference)

def group : String := "operator.containers.carbonblack.io"

def apiVersion : String := group ++ "/v1"

def kindName : String := "CBContainersAgent"

def pluralName : String := "cbcontainersagents"

/-- The mark that holds an agent back from deletion until it is cleaned up. -/
def finalizerName : String := "cbcontainersagent.operator.containers.carbonblack.io"

/-! ## Objects -/

/-- What the operator reports about an agent. -/
structure Status where
  observedGeneration : Int64 := 0
  conditions : List Condition := []
deriving DecidableEq, Inhabited

/-- The conditions as a schema: a list told apart by type, of which nothing
more is said. -/
def conditionList : Described (List Condition) where
  codec := .list Condition.codec
  schema :=
    [("items", .object
        [("type", .str "object"), ("x-kubernetes-preserve-unknown-fields", .bool true)]),
      ("type", .str "array"), ("x-kubernetes-list-map-keys", .arr [.str "type"]),
      ("x-kubernetes-list-type", .str "map")]

def Status.described : Described Status := Section.described <|
  Status.mk <$> .field "observedGeneration" (·.observedGeneration) .int64 0
    <*> .field "conditions" (·.conditions) conditionList []

/-- An agent. -/
structure Resource where
  metadata : ObjectMeta
  spec : Spec
  status : Option Status := none
deriving DecidableEq

def Resource.body : Record Resource Resource :=
  Resource.mk <$> .mandatory "metadata" (·.metadata) ObjectMeta.codec
    <*> .mandatory "spec" (·.spec) Spec.codec
    <*> .positioned (.optional "status" (·.status) Status.described.codec)

/-- What is read and written of an agent beside what the object says it is. -/
def Resource.codec : Codec Resource := Resource.body.positionalCodec

def Resource.name (a : Resource) : String := a.metadata.anyName

/-- The reference by which objects belong to the agent; an agent without name
or uid has none. -/
def Resource.ownerReference? (a : Resource) : Option OwnerReference := do
  let name ← a.metadata.name
  let uid ← a.metadata.uid
  return { apiVersion, kind := kindName, name, uid, controller := some true }

/-! ## Definition -/

/-- The schema of a whole agent: spec and status; the cluster knows the rest. -/
def openApiSchema : Json := .object
  [("properties", .object
      [("spec", .object Spec.described.schema),
        ("status", .object (("nullable", .bool true) :: Status.described.schema))]),
    ("required", .arr [.str "spec"]), ("title", .str kindName), ("type", .str "object")]

/-- The custom resource definition of agents. -/
def definition : Json := .object
  [("apiVersion", .str "apiextensions.k8s.io/v1"),
    ("kind", .str "CustomResourceDefinition"),
    ("metadata", .object [("name", .str (pluralName ++ "." ++ group))]),
    ("spec", .object
      [("group", .str group),
        ("names", .object
          [("categories", .arr []), ("kind", .str kindName), ("plural", .str pluralName),
            ("shortNames", .arr [.str "cbagent"]), ("singular", .str "cbcontainersagent")]),
        ("scope", .str "Cluster"),
        ("versions", .arr [.object
          [("additionalPrinterColumns", .arr []), ("name", .str "v1"),
            ("schema", .object [("openAPIV3Schema", openApiSchema)]),
            ("served", .bool true), ("storage", .bool true),
            ("subresources", .object [("status", .object [])])]])])]

end AgentOperator.Agent
