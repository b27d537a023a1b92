import AgentOperator.Error
import AgentOperator.Json.Source
import AgentOperator.Script

/-!
AgentOperator.Api.Request — what goes to the API server of a cluster and what
comes back.

Objects are found by path: a collection has one, made of API version, namespace
and the plural of the kind, and an object's is that of its collection with the
name behind it.
-/

namespace AgentOperator.Api

inductive Method where
  | get
  | post
  | put
  | patch
  | delete
deriving DecidableEq

def Method.name : Method → String
  | .get => "GET"
  | .post => "POST"
  | .put => "PUT"
  | .patch => "PATCH"
  | .delete => "DELETE"

structure Request where
  method : Method
  path : String
  /-- The parts of the query, each `name=value`. -/
  query : List String := []
  body : Option Json := none
deriving DecidableEq

structure Response where
  status : Nat
  /-- The body, where it is JSON. -/
  body : Option Json.Source

/-- An API server: it answers every request. -/
def outside : Interface := ⟨Request, fun _ => Response⟩

/-! ## Paths -/

/-- The objects of one kind in a namespace or in the whole cluster. -/
structure Collection where
  apiVersion : String
  plural : String
  space : Option String := none
deriving DecidableEq

namespace Collection

/-- An API version without a group belongs to the core. -/
def path (c : Collection) : String :=
  let root := if '/' ∈ c.apiVersion.toList then "/apis/" else "/api/"
  let space := match c.space with
    | some space => "namespaces/" ++ space ++ "/"
    | none => ""
  root ++ c.apiVersion ++ "/" ++ space ++ c.plural

/-- The path of an object, which needs a name. -/
def item (c : Collection) (name : String) : Except ApiFailure String :=
  if name = "" then .error (.unusable "a non-empty name is required")
  else .ok (c.path ++ "/" ++ name)

end Collection

/-! ## Targets -/

/-- Whether a character may stand in a path as it is. -/
def isPathChar (c : Char) : Bool :=
  decide (0x20 < c.toNat) && c != '\x7f' && c != '<' && c != '>' && c != '\x60'

/-- Whether a character may stand in a query as it is. -/
def isQueryChar (c : Char) : Bool :=
  decide (0x20 < c.toNat) && c != '\x7f' && c != '"' && c != '<' && c != '>'

/-- The parts of a query between its ampersands. -/
def queryParts : List Char → List (List Char)
  | [] => [[]]
  | '&' :: cs => [] :: queryParts cs
  | c :: cs =>
    match queryParts cs with
    | part :: parts => (c :: part) :: parts
    | [] => [[c]]

/-- The longest target, in bytes. -/
def maxTargetLength : Nat := 65534

/-- The request for a target: a path that may have a query behind a question
mark and a fragment, which is not sent, behind a hash. -/
def Request.forTarget (method : Method) (target : String) (body : Option Json) :
    Except ApiFailure Request :=
  let (path, rest) := target.toList.span fun c => c != '?' && c != '#'
  let query := match rest with
    | '?' :: cs => cs.takeWhile (· != '#')
    | _ => []
  if maxTargetLength < target.utf8ByteSize then .error (.unusable "the uri is too long")
  else if path.all isPathChar && query.all isQueryChar then
    let parts := (queryParts query).filter (· != [])
    .ok { method, path := String.ofList path, query := parts.map String.ofList, body }
  else .error (.unusable "invalid uri character")

end AgentOperator.Api
