import AgentOperator.Json.Text

/-!
AgentOperator.Json.Yaml — JSON values written as YAML, the way definitions are
handed to a cluster: one member or one item a line, and items of a list as deep
as the name that the list belongs to.
-/

namespace AgentOperator.Json.Yaml

/-! ## Scalars -/

/-- Words that without quotes would not be read as strings. -/
def reservedWords : List String :=
  ["null", "true", "false", "yes", "no", "on", "off", "y", "n"]

def isPlainStart (c : Char) : Bool := c.isAlpha || c = '/'

def isPlainChar (c : Char) : Bool := c.isAlphanum || ['/', '.', '-', '_'].contains c

/-- Whether a string may stand without quotes. There are more that may, but of
these it is plain. -/
def isPlain (s : String) : Bool :=
  match s.toList with
  | [] => false
  | c :: cs =>
    isPlainStart c && cs.all isPlainChar &&
      !reservedWords.contains (String.ofList ((c :: cs).map Char.toLower))

/-- A string, which inside double quotes is written as in JSON. -/
def renderString (s : String) : String :=
  if s = "" then "''" else if isPlain s then s else Json.renderString "" s

/-- A value that takes one line. -/
def renderScalar : Json → String
  | .str s => renderString s
  | j => j.render

/-! ## Blocks -/

/-- Whether a value takes lines of its own. -/
def isBlock : Json → Bool
  | .arr xs => !xs.isEmpty
  | .obj ms => !ms.isEmpty
  | _ => false

def indent (line : String) : String := "  " ++ line

/-- Puts the lines of an item behind its dash. -/
def dashed : List String → List String
  | [] => ["-"]
  | line :: more => ("- " ++ line) :: more.map indent

/-- Puts the lines of a member behind its name. -/
def underName (name : String) (j : Json) (lines : List String) : List String :=
  let name := renderString name ++ ":"
  if !isBlock j then [name ++ " " ++ renderScalar j]
  else match j with
    | .obj _ => name :: lines.map indent
    | _ => name :: lines

mutual

/-- The lines of a value. -/
def lines : Json → List String
  | .arr (x :: xs) => itemLines (x :: xs)
  | .obj (m :: ms) => memberLines (m :: ms)
  | j => [renderScalar j]

def itemLines : List Json → List String
  | [] => []
  | x :: xs => dashed (lines x) ++ itemLines xs

def memberLines : List (String × Json) → List String
  | [] => []
  | (name, x) :: ms => underName name x (lines x) ++ memberLines ms

end

/-- The text of a value: each line is ended. -/
def render (j : Json) : String := String.join ((lines j).map (· ++ "\n"))

end AgentOperator.Json.Yaml
