import AgentOperator.Api.Request
import AgentOperator.Agent.Resource

/-!
AgentOperator.Api.Server — an API server that is a value: it keeps objects by
path, can fail at will, and keeps a record of the requests.

It knows no kinds. Objects are put and found under their paths as they are,
and a patch is answered with the object as it stands.
-/

namespace AgentOperator.Api

/-- Requests that are answered in another way: those that agree with every
part that is given. -/
structure Outage where
  path : Option String := none
  method : Option Method := none
  response : Response

def Outage.covers (o : Outage) (r : Request) : Bool :=
  o.path.all (· = r.path) && o.method.all (· = r.method)

structure Server where
  /-- The objects by their paths. -/
  objects : Dict Json := ∅
  outages : List Outage := []
  /-- The requests so far. -/
  log : List Request := []

/-- The report of a failure. -/
def failureReport (status : Nat) (reason : String) : Json := .object
  [("apiVersion", .str "v1"), ("kind", .str "Status"), ("metadata", .object []),
    ("status", .str "Failure"), ("message", .str "the request failed"), ("reason", .str reason),
    ("code", .nat status)]

/-- A response whose body is a value. -/
def Response.of (status : Nat) (j : Json) : Response := ⟨status, some (.value j)⟩

def Response.failed (status : Nat) (reason : String) : Response :=
  .of status (failureReport status reason)

def Response.ok (j : Json) : Response := .of 200 j

namespace Server

/-- The kinds whose objects can be listed. -/
def listed : List String := ["nodes", Agent.pluralName]

def isList (path : String) : Bool := listed.any fun plural => path.endsWith ("/" ++ plural)

/-- The number of items that a query asks for at most. -/
def limit? (query : List String) : Option Nat :=
  query.findSome? fun part =>
    match part.toList with
    | 'l' :: 'i' :: 'm' :: 'i' :: 't' :: '=' :: digits =>
      if !digits.isEmpty && digits.all Char.isDigit then some (Nat.ofDigitChars 10 digits 0)
      else none
    | _ => none

/-- The objects of a collection, in the order of their paths. -/
def listAt (s : Server) (path : String) (query : List String) : Json :=
  let found := (s.objects.toList.filter fun (p, _) => p.startsWith (path ++ "/")).map (·.2)
  let items := match limit? query with
    | some n => found.take n
    | none => found
  .object [("apiVersion", .str "v1"), ("kind", .str "List"), ("metadata", .object []),
    ("items", .arr items)]

/-- The name in the metadata of an object. -/
def nameIn (j : Json) : String :=
  (((j.get? "metadata").bind (·.get? "name")).bind Json.asString?).getD ""

/-- Answers with the object at a path, if there is one. -/
def foundAt (s : Server) (path : String) : Response :=
  match s.objects.get? path with
  | some j => .ok j
  | none => .failed 404 "NotFound"

/-- The path of the object that a path, maybe of its status, belongs to. -/
def withoutStatus (path : String) : String :=
  if path.endsWith "/status" then String.ofList (path.toList.take (path.length - 7)) else path

/-- Does what a request asks for. -/
def serve (r : Request) (s : Server) : Response × Server :=
  match r.method with
  | .get => (if isList r.path then .ok (s.listAt r.path r.query) else s.foundAt r.path, s)
  | .post =>
    let j := r.body.getD .null
    let path := r.path ++ "/" ++ nameIn j
    if s.objects.contains path then (.failed 409 "AlreadyExists", s)
    else (.of 201 j, { s with objects := s.objects.insert path j })
  | .put =>
    let j := r.body.getD .null
    if s.objects.contains r.path then (.ok j, { s with objects := s.objects.insert r.path j })
    else (.failed 404 "NotFound", s)
  | .delete =>
    if s.objects.contains r.path then
      (.ok (.object [("apiVersion", .str "v1"), ("kind", .str "Status"), ("metadata", .object []),
        ("status", .str "Success")]), { s with objects := s.objects.erase r.path })
    else (.failed 404 "NotFound", s)
  | .patch => (s.foundAt (withoutStatus r.path), s)

/-- Answers a request, unless an outage covers it. -/
def answer (r : Request) : StateM Server Response := fun s =>
  let s := { s with log := s.log ++ [r] }
  match s.outages.find? (·.covers r) with
  | some outage => (outage.response, s)
  | none => s.serve r

end Server

end AgentOperator.Api
