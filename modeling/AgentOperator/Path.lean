/-!
AgentOperator.Path — paths of files, as texts.
-/

namespace AgentOperator.Path

/-- `path` seen from `base`: an absolute path stands for itself, and a slash is
put in between where `base` does not end in one. -/
def join (base path : String) : String :=
  if path.startsWith "/" then path
  else if base = "" ∨ base.endsWith "/" then base ++ path
  else base ++ "/" ++ path

/-- The parts of a path between its slashes. -/
def split : List Char → List (List Char)
  | [] => [[]]
  | '/' :: cs => [] :: split cs
  | c :: cs =>
    match split cs with
    | part :: parts => (c :: part) :: parts
    | [] => [[c]]

/-- The parts that lead somewhere: empty ones and single points do not. -/
def steps (cs : List Char) : List (List Char) :=
  (split cs).filter fun part => part != [] && part != ['.']

/-- Whether two paths are spellings of one: both from the root or neither, both
from a leading point or neither, and with the same steps. -/
def same (a b : String) : Bool :=
  let start (cs : List Char) : Bool × Bool :=
    (cs.head? == some '/', (split cs).head? == some ['.'])
  start a.toList == start b.toList && steps a.toList == steps b.toList

end AgentOperator.Path
