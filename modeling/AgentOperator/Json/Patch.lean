import AgentOperator.Json.Basic

/-!
AgentOperator.Json.Patch — merge patches (RFC 7386) and pointers (RFC 6901).

A merge patch writes its members over the target's, drops the members it
gives as null, and replaces everything that is not an object.
-/

namespace AgentOperator.Json

/-! ## Merge patch -/

mutual

/-- The target with the patch merged into it. -/
def mergePatch (target : Json) : Json → Json
  | .obj patch => mergeMembers ((target.members?).getD []) patch
  | patch => patch

def mergeMembers (members : List (String × Json)) : List (String × Json) → Json
  | [] => .obj members
  | (name, value) :: rest =>
    match value with
    | .null => mergeMembers (members.filter (·.1 != name)) rest
    | value =>
      let old := (Entries.find? name members).getD .null
      mergeMembers (Entries.insert name (mergePatch old value) members) rest

end

/-! ## Pointer -/

/-- A reference token with `~1` read as `/` and `~0` as `~`. -/
def unescapeToken : List Char → List Char
  | '~' :: '1' :: cs => '/' :: unescapeToken cs
  | '~' :: '0' :: cs => '~' :: unescapeToken cs
  | c :: cs => c :: unescapeToken cs
  | [] => []

/-- An array index: decimal digits without sign or leading zero. -/
def arrayIndex? (token : List Char) : Option Nat :=
  match token with
  | [] => none
  | ['0'] => some 0
  | '0' :: _ => none
  | cs => if cs.all Char.isDigit then some (Nat.ofDigitChars 10 cs 0) else none

/-- One step into a value. -/
def step? (j : Json) (token : List Char) : Option Json :=
  match j with
  | .obj ms => Entries.find? (String.ofList token) ms
  | .arr xs => (arrayIndex? token).bind (xs[·]?)
  | _ => none

/-- The reference tokens between the slashes. -/
def splitTokens : List Char → List (List Char)
  | [] => [[]]
  | '/' :: cs => [] :: splitTokens cs
  | c :: cs =>
    match splitTokens cs with
    | t :: ts => (c :: t) :: ts
    | [] => [[c]]

/-- The value a pointer names: the empty pointer names the whole value, every
other one starts with a slash. -/
def pointer? (j : Json) (pointer : String) : Option Json :=
  match pointer.toList with
  | [] => some j
  | '/' :: cs => (splitTokens cs).foldlM (fun j t => j.step? (unescapeToken t)) j
  | _ => none

end AgentOperator.Json
