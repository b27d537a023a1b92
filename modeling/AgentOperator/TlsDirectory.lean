import AgentOperator.Kube.Key
import AgentOperator.Path
import AgentOperator.Tls

/-!
AgentOperator.TlsDirectory — certificates issued out of band, in one directory
for each service.

`<root>/<service>/` holds the files `ca.crt`, `ca.key`, `signed_cert` and
`key`.
-/

namespace AgentOperator

/-! ## Files -/

inductive FileNode where
  | file (content : Bytes)
  | directory
deriving DecidableEq

/-- Why a file cannot be read. -/
inductive ReadProblem where
  | notFound
  | notADirectory
  | isADirectory
  | nameTooLong
  | zeroInName
deriving DecidableEq

def ReadProblem.message : ReadProblem → String
  | .notFound => "No such file or directory (os error 2)"
  | .notADirectory => "Not a directory (os error 20)"
  | .isADirectory => "Is a directory (os error 21)"
  | .nameTooLong => "File name too long (os error 36)"
  | .zeroInName => "file name contained an unexpected NUL byte"

/-- A directory with certificates. -/
structure TlsDirectory where
  /-- The path of the directory. -/
  root : String
  /-- What is in it, by path from the root. -/
  nodes : Dict FileNode := ∅

namespace TlsDirectory

/-- The longest name of a file, in bytes. -/
def maxNameLength : Nat := 255

/-- The longest path, in bytes. -/
def maxPathLength : Nat := 4095

def isTooLong (step : List Char) : Bool :=
  decide (maxNameLength < (String.ofList step).utf8ByteSize)

/-- The steps from the root to a node. -/
def stepsOf (path : String) : List (List Char) := Path.steps path.toList

/-- What is found at steps from the root. The parents of a node are directories
without being listed. -/
def node? (d : TlsDirectory) (steps : List (List Char)) : Option FileNode :=
  match d.nodes.toList.find? fun (path, _) => stepsOf path == steps with
  | some (_, node) => some node
  | none =>
    if steps.isEmpty || d.nodes.keys.any fun path => steps.isPrefixOf (stepsOf path) then
      some .directory
    else none

/-- Where the directory around a place is; `none` is outside. -/
def parent? : List (List Char) → Option (List (List Char))
  | [] => none
  | trail => some trail.dropLast

/-- Goes on from a node that was reached by a trail of steps, or from one of
the directories outside. Of what they hold nothing is known, so nothing is
found there. -/
def walk (d : TlsDirectory) : (place : Option (List (List Char))) → List (List Char) →
    Except ReadProblem FileNode
  | none, [] => .ok .directory
  | none, step :: steps =>
    if isTooLong step then .error .nameTooLong
    else if step = ['.', '.'] then walk d none steps
    else .error .notFound
  | some trail, [] =>
    match d.node? trail with
    | some node => .ok node
    | none => .error .notFound
  | some trail, step :: steps =>
    match d.node? trail with
    | none => .error .notFound
    | some (.file _) => .error .notADirectory
    | some .directory =>
      if isTooLong step then .error .nameTooLong
      else if step = ['.', '.'] then walk d (parent? trail) steps
      else walk d (some (trail ++ [step])) steps

/-- Reads a file by its path. -/
def read (d : TlsDirectory) (path : String) : Except ReadProblem Bytes :=
  let inside := Path.join d.root ""
  let (place, rest) :=
    if path.startsWith inside then (some [], path.toList.drop inside.length)
    else (none, path.toList)
  if '\x00' ∈ path.toList then .error .zeroInName
  else if maxPathLength < path.utf8ByteSize then .error .nameTooLong
  else
    match d.walk place (Path.steps rest) with
    | .ok (.file content) => .ok content
    | .ok .directory => .error .isADirectory
    | .error problem => .error problem

/-- One file of a service. -/
def material (d : TlsDirectory) (service file : String) : Except Error Bytes :=
  let path := Path.join (Path.join d.root service) file
  match d.read path with
  | .ok content => .ok content
  | .error .notFound => .error (.preconditionMissing ("tls file " ++ path ++ " does not exist"))
  | .error problem =>
    .error (.invalidArgument ("failed to read " ++ path ++ ": " ++ problem.message))

/-- The certificates of a service, read in the order in which they are named
above. -/
def issue (d : TlsDirectory) (service : Kube.ObjectKey) : Except Error TlsMaterial := do
  return {
    caCert := ← d.material service.name TlsMaterial.caCertKey
    caKey := ← d.material service.name TlsMaterial.caKeyKey
    signedCert := ← d.material service.name TlsMaterial.signedCertKey
    key := ← d.material service.name TlsMaterial.keyKey }

end TlsDirectory

end AgentOperator
