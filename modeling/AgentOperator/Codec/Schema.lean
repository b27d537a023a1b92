import AgentOperator.Codec.Basic

/-!
AgentOperator.Codec.Schema — types of JSON values described by data.

A `Schema` describes a type, `Value s` is that type, and `Schema.codec` its
codec. The operator carries much of every cluster object along without
looking at it; a schema says what that part may hold without a structure
being declared for it. `Rest fields` is such a part of an object: the values
of the listed members.
-/

namespace AgentOperator

/-- What becomes of a member that is missing or null. -/
inductive Presence where
  /-- It has no value, and is not written. -/
  | optional
  /-- It has its type's default, and is always written. -/
  | required
  /-- It is refused. -/
  | mandatory
deriving DecidableEq

inductive Schema where
  | string
  | bool
  | int32
  | int64
  /-- A number of 32 bits or a string. -/
  | intOrString
  | bytes
  | time
  /-- Any JSON at all. -/
  | any
  | list (item : Schema)
  | dict (value : Schema)
  | object (fields : List (String × Presence × Schema))

/-- The members of an object with the schemas of their values. -/
abbrev Fields := List (String × Presence × Schema)

/-- A number or the name of one, as for the ports of a container. -/
inductive IntOrString where
  | int (value : Int32)
  | string (value : String)
deriving DecidableEq

instance : Inhabited IntOrString := ⟨.int 0⟩

def Codec.intOrString : Codec IntOrString where
  encode
    | .int i => Codec.int32.encode i
    | .string s => .str s
  decode
    | .str s => .ok (.string s)
    | j => .int <$> Codec.int32.decode j

namespace Schema

/-! ## The described type -/

mutual

/-- The type a schema describes. -/
def Value : Schema → Type
  | .string => String
  | .bool => Bool
  | .int32 => Int32
  | .int64 => Int64
  | .intOrString => IntOrString
  | .bytes => Bytes
  | .time => Timestamp
  | .any => Json
  | .list s => List (Value s)
  | .dict s => Dict (Value s)
  | .object fs => FieldValues fs

/-- The values of the members of an object. -/
def FieldValues : List (String × Presence × Schema) → Type
  | [] => Unit
  | (_, .optional, s) :: fs => Option (Value s) × FieldValues fs
  | (_, .required, s) :: fs => Value s × FieldValues fs
  | (_, .mandatory, s) :: fs => Value s × FieldValues fs

end

mutual

def Value.decEq : (s : Schema) → DecidableEq (Value s)
  | .string => inferInstanceAs (DecidableEq String)
  | .bool => inferInstanceAs (DecidableEq Bool)
  | .int32 => inferInstanceAs (DecidableEq Int32)
  | .int64 => inferInstanceAs (DecidableEq Int64)
  | .intOrString => inferInstanceAs (DecidableEq IntOrString)
  | .bytes => inferInstanceAs (DecidableEq Bytes)
  | .time => inferInstanceAs (DecidableEq Timestamp)
  | .any => inferInstanceAs (DecidableEq Json)
  | .list s => have := Value.decEq s; inferInstanceAs (DecidableEq (List (Value s)))
  | .dict s => have := Value.decEq s; inferInstanceAs (DecidableEq (Dict (Value s)))
  | .object fs => FieldValues.decEq fs

def FieldValues.decEq :
    (fs : List (String × Presence × Schema)) → DecidableEq (FieldValues fs)
  | [] => inferInstanceAs (DecidableEq Unit)
  | (_, .optional, s) :: fs =>
    have := Value.decEq s; have := FieldValues.decEq fs
    inferInstanceAs (DecidableEq (Option (Value s) × FieldValues fs))
  | (_, .required, s) :: fs =>
    have := Value.decEq s; have := FieldValues.decEq fs
    inferInstanceAs (DecidableEq (Value s × FieldValues fs))
  | (_, .mandatory, s) :: fs =>
    have := Value.decEq s; have := FieldValues.decEq fs
    inferInstanceAs (DecidableEq (Value s × FieldValues fs))

end

mutual

/-- The default of a described type. -/
def Value.default : (s : Schema) → Value s
  | .string => ("" : String)
  | .bool => false
  | .int32 => (0 : Int32)
  | .int64 => (0 : Int64)
  | .intOrString => (Inhabited.default : IntOrString)
  | .bytes => ([] : Bytes)
  | .time => (Inhabited.default : Timestamp)
  | .any => Json.null
  | .list _ => []
  | .dict _ => Dict.empty
  | .object fs => FieldValues.default fs

def FieldValues.default : (fs : List (String × Presence × Schema)) → FieldValues fs
  | [] => ()
  | (_, .optional, _) :: fs => (none, FieldValues.default fs)
  | (_, .required, s) :: fs => (Value.default s, FieldValues.default fs)
  | (_, .mandatory, s) :: fs => (Value.default s, FieldValues.default fs)

end

/-! ## Writing -/

mutual

def encode : (s : Schema) → Value s → Json
  | .string, v => Codec.string.encode v
  | .bool, v => Codec.bool.encode v
  | .int32, v => Codec.int32.encode v
  | .int64, v => Codec.int64.encode v
  | .intOrString, v => Codec.intOrString.encode v
  | .bytes, v => Codec.bytes.encode v
  | .time, v => Codec.timestamp.encode v
  | .any, v => v
  | .list s, v => .arr (List.map (encode s) v)
  | .dict s, v => .object ((Dict.toList v).map fun (k, x) => (k, encode s x))
  | .object fs, v => .object (encodeFields fs v)

/-- The members that are written, in the order of the fields. -/
def encodeFields :
    (fs : List (String × Presence × Schema)) → FieldValues fs → List (String × Json)
  | [], _ => []
  | (name, .optional, s) :: fs, (v, vs) =>
    match v with
    | some v => (name, encode s v) :: encodeFields fs vs
    | none => encodeFields fs vs
  | (name, .required, s) :: fs, (v, vs) => (name, encode s v) :: encodeFields fs vs
  | (name, .mandatory, s) :: fs, (v, vs) => (name, encode s v) :: encodeFields fs vs

end

/-! ## Reading -/

mutual

def decode : (s : Schema) → Json → Except WireError (Value s)
  | .string => Codec.string.decode
  | .bool => Codec.bool.decode
  | .int32 => Codec.int32.decode
  | .int64 => Codec.int64.decode
  | .intOrString => Codec.intOrString.decode
  | .bytes => Codec.bytes.decode
  | .time => Codec.timestamp.decode
  | .any => fun j => .ok j
  | .list s => fun j =>
    match j with
    | .arr js => js.mapM (decode s)
    | _ => .error (.expected "an array")
  | .dict s => fun j =>
    match j with
    | .obj ms => (Codec.decodeEntries (decode s) ms).map Dict.ofList
    | _ => .error (.expected "an object")
  | .object fs => fun j =>
    match j with
    | .obj ms => decodeFields fs fun name => Entries.find? name ms
    | _ => .error (.expected "an object")

/-- Reads the fields from members found by name. -/
def decodeFields : (fs : List (String × Presence × Schema)) → (String → Option Json) →
    Except WireError (FieldValues fs)
  | [], _ => .ok ()
  | (name, .optional, s) :: fs, look => do
    let v ← (match look name with
      | none | some .null => .ok none
      | some j => some <$> decode s j)
    let vs ← decodeFields fs look
    return (v, vs)
  | (name, .required, s) :: fs, look => do
    let v ← (match look name with
      | none | some .null => .ok (Value.default s)
      | some j => decode s j)
    let vs ← decodeFields fs look
    return (v, vs)
  | (name, .mandatory, s) :: fs, look => do
    let v ← (match look name with
      | none | some .null => .error (.missing name)
      | some j => decode s j)
    let vs ← decodeFields fs look
    return (v, vs)

end

mutual

/-- How a value of the described type is read from a text. -/
def outline : Schema → Outline
  | .list s => .list (outline s)
  | .dict s => .dict (outline s)
  | .object fs => .record { mayRepeat := true } (fieldOutlines fs)
  | _ => .whole

def fieldOutlines : List (String × Presence × Schema) → List (String × Outline)
  | [] => []
  | (name, _, s) :: fs => (name, outline s) :: fieldOutlines fs

end

/-- The codec of a described type. -/
def codec (s : Schema) : Codec (Value s) where
  encode := encode s
  decode := decode s
  outline := outline s

/-- The names of the optional members that have a value. -/
def present : (fs : List (String × Presence × Schema)) → FieldValues fs → List String
  | [], _ => []
  | (name, .optional, _) :: fs, (v, vs) =>
    if v.isSome then name :: present fs vs else present fs vs
  | (_, .required, _) :: fs, (_, vs) => present fs vs
  | (_, .mandatory, _) :: fs, (_, vs) => present fs vs

end Schema

/-! ## The part of an object that is carried along -/

/-- A value of a described type. -/
structure Carried (s : Schema) where
  value : s.Value

namespace Carried

variable {s : Schema}

instance : DecidableEq (Carried s) := fun a b =>
  have := Schema.Value.decEq s
  decidable_of_iff (a.value = b.value)
    ⟨fun h => by cases a; cases b; cases h; rfl, fun h => h ▸ rfl⟩

instance : Inhabited (Carried s) := ⟨⟨Schema.Value.default s⟩⟩

def codec : Codec (Carried s) := s.codec.imap Carried.mk Carried.value

end Carried

/-- The values of members that stand beside those a structure names. -/
structure Rest (fields : Fields) where
  values : Schema.FieldValues fields

namespace Rest

variable {fs : Fields}

instance : DecidableEq (Rest fs) := fun a b =>
  have := Schema.FieldValues.decEq fs
  decidable_of_iff (a.values = b.values)
    ⟨fun h => by cases a; cases b; cases h; rfl, fun h => h ▸ rfl⟩

instance : Inhabited (Rest fs) := ⟨⟨Schema.FieldValues.default fs⟩⟩

/-- The names of the members that have a value. -/
def present (r : Rest fs) : List String := Schema.present fs r.values

end Rest

/-- The members carried along by a structure. -/
def Record.rest {fs : Fields} (get : σ → Rest fs) : Record σ (Rest fs) where
  slots := fs.map fun f => ⟨f.1, true, f.2.2.outline⟩
  write s := Schema.encodeFields fs (get s).values
  read look := Rest.mk <$> Schema.decodeFields fs look

end AgentOperator
