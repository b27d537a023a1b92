import AgentOperator.Codec.Basic

/-!
AgentOperator.Codec.Described — codecs that come with an OpenAPI schema.

The schema of a record lists the properties its members have, with the default
each takes when it is missing. Members, their defaults and their schemas are
given together, so a schema cannot promise what the codec does not do.
-/

namespace AgentOperator

/-- A codec and the keywords of its OpenAPI schema. -/
structure Described (α : Type) where
  codec : Codec α
  schema : List (String × Json)

namespace Described

def string : Described String := ⟨.string, [("type", .str "string")]⟩

def bool : Described Bool := ⟨.bool, [("type", .str "boolean")]⟩

def int32 : Described Int32 := ⟨.int32, [("format", .str "int32"), ("type", .str "integer")]⟩

def int64 : Described Int64 := ⟨.int64, [("format", .str "int64"), ("type", .str "integer")]⟩

/-- An object that is described no further. -/
def plainObject (c : Codec α) : Described α := ⟨c, [("type", .str "object")]⟩

def list (d : Described α) : Described (List α) :=
  ⟨d.codec.list, [("items", .object d.schema), ("type", .str "array")]⟩

def dict (d : Described α) : Described (Dict α) :=
  ⟨d.codec.dict, [("additionalProperties", .object d.schema), ("type", .str "object")]⟩

def nullable (d : Described α) : Described (Option α) :=
  ⟨d.codec.nullable, ("nullable", .bool true) :: d.schema⟩

end Described

/-- A record with the properties of its members, in order of declaration, and
the names of those that must be there. -/
structure Section (σ α : Type) where
  record : Record σ α
  properties : List (String × Json)
  required : List String

namespace Section

instance : Functor (Section σ) where
  map f s := { record := f <$> s.record, properties := s.properties, required := s.required }

instance : Pure (Section σ) where
  pure a := { record := pure a, properties := [], required := [] }

instance : Seq (Section σ) where
  seq f s :=
    { record := f.record <*> (s ()).record
      properties := f.properties ++ (s ()).properties
      required := f.required ++ (s ()).required }

/-- A member that must be there. -/
def mandatory (name : String) (get : σ → α) (d : Described α) : Section σ α :=
  ⟨.mandatory name get d.codec, [(name, .object d.schema)], [name]⟩

/-- A member with a default. The schema states the default unless it is null. -/
def field (name : String) (get : σ → α) (d : Described α) (value : α) : Section σ α :=
  let default := d.codec.encode value
  let keywords := if default = .null then d.schema else ("default", default) :: d.schema
  ⟨.defaulted name get d.codec value, [(name, .object keywords)], []⟩

/-- A member that may be missing or null. -/
def optional (name : String) (get : σ → Option α) (d : Described α) : Section σ (Option α) :=
  ⟨.optional name get d.codec, [(name, .object (("nullable", .bool true) :: d.schema))], []⟩

/-- The members of a part, side by side with those of the whole. -/
def within (get : σ → τ) (s : Section τ α) : Section σ α :=
  ⟨.within get s.record, s.properties, s.required⟩

/-- The schema of an object with these members. -/
def schema (s : Section σ α) : List (String × Json) :=
  let keywords := [("properties", Json.object s.properties), ("type", .str "object")]
  if s.required.isEmpty then keywords
  else ("required", .arr (s.required.map .str)) :: keywords

/-- The section as a type of its own, read from an object or from an array of
its members' values. -/
def described (s : Section α α) : Described α := ⟨s.record.positionalCodec, s.schema⟩

/-- The section as a type of its own, read from an object only, which may hold
any other members. -/
def describedOpenly (s : Section α α) : Described α := ⟨s.record.openCodec, s.schema⟩

end Section

end AgentOperator
