import AgentOperator.Codec.Outline
import AgentOperator.Text.Base64
import AgentOperator.Timestamp

/-!
AgentOperator.Codec.Basic — writing values as JSON and reading them back.

A `Codec` holds both directions of one type, and the outline by which its values
are read from a text. Records are put together member
by member: `Record σ α` writes some members of a `σ` and reads an `α` from
them, and `pure`, `<$>` and `<*>` join members in the order of the fields, so
that each member is named once for both directions. How a member treats a
missing or null value is the choice of its combinator.
-/

namespace AgentOperator

/-! ## Errors -/

/-- Why a JSON value is not one of a type. -/
inductive WireError where
  /-- The value has another shape. -/
  | expected (shape : String)
  /-- A member that must be there is missing. -/
  | missing (member : String)
  /-- The value of a member cannot be read. -/
  | inside (member : String) (cause : WireError)
deriving DecidableEq

def WireError.message : WireError → String
  | .expected shape => "expected " ++ shape
  | .missing member => "missing member " ++ member
  | .inside member cause => member ++ ": " ++ cause.message

/-! ## Codecs -/

structure Codec (α : Type) where
  encode : α → Json
  decode : Json → Except WireError α
  outline : Outline := .whole

namespace Codec

/-- Reads a text. What is written without counting has to be of the type as
well. -/
def read (c : Codec α) (s : Json.Source) : Except WireError α :=
  match c.outline.settle s with
  | none => .error (.expected "readable JSON")
  | some x => do
    let _ ← x.overwritten.mapM c.decode
    c.decode x.value

/-- A value is read as itself. -/
@[simp] theorem read_value (c : Codec α) (j : Json) : c.read (.value j) = c.decode j := by
  simp [read, bind, Except.bind, pure, Except.pure]

def string : Codec String where
  encode := .str
  decode
    | .str s => .ok s
    | _ => .error (.expected "a string")

def bool : Codec Bool where
  encode := .bool
  decode
    | .bool b => .ok b
    | _ => .error (.expected "a boolean")

/-- An integer of 32 bits. -/
def int32 : Codec Int32 where
  encode i := .int i.toInt
  decode
    | .num (.int i) =>
      if Int32.minValue.toInt ≤ i ∧ i ≤ Int32.maxValue.toInt then .ok (Int32.ofInt i)
      else .error (.expected "an integer of 32 bits")
    | _ => .error (.expected "an integer")

/-- An integer of 64 bits. -/
def int64 : Codec Int64 where
  encode i := .int i.toInt
  decode
    | .num (.int i) =>
      if Int64.minValue.toInt ≤ i ∧ i ≤ Int64.maxValue.toInt then .ok (Int64.ofInt i)
      else .error (.expected "an integer of 64 bits")
    | _ => .error (.expected "an integer")

/-- A natural number of 16 bits. -/
def uint16 : Codec UInt16 where
  encode i := .nat i.toNat
  decode
    | .num (.int i) =>
      if 0 ≤ i ∧ i < UInt16.size then .ok (UInt16.ofNat i.toNat)
      else .error (.expected "a natural number of 16 bits")
    | _ => .error (.expected "an integer")

/-- A natural number of 32 bits. -/
def uint32 : Codec UInt32 where
  encode i := .nat i.toNat
  decode
    | .num (.int i) =>
      if 0 ≤ i ∧ i < UInt32.size then .ok (UInt32.ofNat i.toNat)
      else .error (.expected "a natural number of 32 bits")
    | _ => .error (.expected "an integer")

/-- A natural number of 64 bits. -/
def uint64 : Codec UInt64 where
  encode i := .nat i.toNat
  decode
    | .num (.int i) =>
      if 0 ≤ i ∧ i < UInt64.size then .ok (UInt64.ofNat i.toNat)
      else .error (.expected "a natural number of 64 bits")
    | _ => .error (.expected "an integer")

/-- Octets as base64; null is the empty string of octets. -/
def bytes : Codec Bytes where
  encode b := .str (String.ofList (Base64.encode b))
  decode
    | .null => .ok []
    | .str s =>
      match Base64.decode? s.toList with
      | some b => .ok b
      | none => .error (.expected "base64")
    | _ => .error (.expected "base64")

def timestamp : Codec Timestamp where
  encode t := .str t.render
  decode
    | .str s =>
      match Timestamp.parse? s with
      | some t => .ok t
      | none => .error (.expected "a time")
    | _ => .error (.expected "a time")

/-- Any value at all. -/
def json : Codec Json where
  encode := id
  decode := .ok

/-- Null for `none`. -/
def nullable (c : Codec α) : Codec (Option α) where
  encode
    | some a => c.encode a
    | none => .null
  decode
    | .null => .ok none
    | j => some <$> c.decode j
  outline := c.outline

def list (c : Codec α) : Codec (List α) where
  encode xs := .arr (xs.map c.encode)
  decode
    | .arr xs => xs.mapM c.decode
    | _ => .error (.expected "an array")
  outline := .list c.outline

/-- Reads every member of an object. -/
def decodeEntries (decode : Json → Except WireError α) :
    List (String × Json) → Except WireError (List (String × α))
  | [] => .ok []
  | (k, j) :: ms =>
    match decode j with
    | .error e => .error (.inside k e)
    | .ok a => (decodeEntries decode ms).map ((k, a) :: ·)

/-- An object whose members all have one type. -/
def dict (c : Codec α) : Codec (Dict α) where
  encode d := .object (d.toList.map fun (k, a) => (k, c.encode a))
  decode
    | .obj ms => (decodeEntries c.decode ms).map Dict.ofList
    | _ => .error (.expected "an object")
  outline := .dict c.outline

/-- A codec carried along a pair of conversions. -/
def imap (c : Codec α) (forth : α → β) (back : β → α) : Codec β where
  encode b := c.encode (back b)
  decode j := forth <$> c.decode j
  outline := c.outline

end Codec

/-! ## Records -/

/-- The place of a member in a record. -/
structure Slot where
  name : String
  /-- Whether a positional reading may leave its value out at the end. -/
  omissible : Bool
  outline : Outline := .whole

/-- Writes members of a `σ` and reads an `α` from members found by name. -/
structure Record (σ α : Type) where
  slots : List Slot
  write : σ → List (String × Json)
  read : (String → Option Json) → Except WireError α

namespace Record

instance : Functor (Record σ) where
  map f r := { slots := r.slots, write := r.write, read := fun look => f <$> r.read look }

instance : Pure (Record σ) where
  pure a := { slots := [], write := fun _ => [], read := fun _ => .ok a }

instance : Seq (Record σ) where
  seq f r :=
    { slots := f.slots ++ (r ()).slots
      write := fun s => f.write s ++ (r ()).write s
      read := fun look => do
        let g ← f.read look
        let a ← (r ()).read look
        return g a }

/-- Reads the value of a member, naming it in errors. -/
def decodeMember (name : String) (c : Codec α) (j : Json) : Except WireError α :=
  match c.decode j with
  | .ok a => .ok a
  | .error e => .error (.inside name e)

/-- A member that may be missing or null, and is then not written. -/
def optional (name : String) (get : σ → Option α) (c : Codec α) : Record σ (Option α) where
  slots := [⟨name, true, c.outline⟩]
  write s :=
    match get s with
    | some a => [(name, c.encode a)]
    | none => []
  read look :=
    match look name with
    | none | some .null => .ok none
    | some j => some <$> decodeMember name c j

/-- A member that is always written; a missing or null value is read as the
type's default. -/
def required [Inhabited α] (name : String) (get : σ → α) (c : Codec α) : Record σ α where
  slots := [⟨name, true, c.outline⟩]
  write s := [(name, c.encode (get s))]
  read look :=
    match look name with
    | none | some .null => .ok default
    | some j => decodeMember name c j

/-- A member that must be there and is always written. -/
def mandatory (name : String) (get : σ → α) (c : Codec α) : Record σ α where
  slots := [⟨name, false, c.outline⟩]
  write s := [(name, c.encode (get s))]
  read look :=
    match look name with
    | none => .error (.missing name)
    | some j => decodeMember name c j

/-- A member that is always written and has its own default when it is missing,
but not when it is null. -/
def defaulted (name : String) (get : σ → α) (c : Codec α) (value : α) : Record σ α where
  slots := [⟨name, true, c.outline⟩]
  write s := [(name, c.encode (get s))]
  read look :=
    match look name with
    | none => .ok value
    | some j => decodeMember name c j

/-- A list that is written unless it is empty, and empty when it is missing. -/
def unlessEmpty (name : String) (get : σ → List α) (c : Codec α) : Record σ (List α) where
  slots := [⟨name, true, c.list.outline⟩]
  write s := if (get s).isEmpty then [] else [(name, c.list.encode (get s))]
  read look :=
    match look name with
    | none => .ok []
    | some j => decodeMember name c.list j

/-- An optional member that a positional reading may not leave out. -/
def positioned (r : Record σ α) : Record σ α :=
  { r with slots := r.slots.map fun s => { s with omissible := false } }

/-- A member with one value: it may be missing, and is always written. -/
def constant (name value : String) : Record σ Unit where
  slots := [{ name, omissible := true }]
  write _ := [(name, .str value)]
  read look :=
    match look name with
    | none => .ok ()
    | some j => if j = .str value then .ok () else .error (.inside name (.expected value))

/-- The members of a part, side by side with those of the whole. -/
def within (get : σ → τ) (r : Record τ α) : Record σ α :=
  { slots := r.slots, write := fun s => r.write (get s), read := r.read }

/-- Runs `r` before `k`, keeping what `k` reads. -/
def after (r : Record σ Unit) (k : Record σ α) : Record σ α :=
  (fun _ a => a) <$> r <*> k

/-- The outlines of the members. -/
def outlines (r : Record σ α) : List (String × Outline) :=
  r.slots.map fun s => (s.name, s.outline)

/-- Reads the members of an object. -/
def decodeObject (r : Record σ α) : Json → Except WireError α
  | .obj ms => r.read fun name => Entries.find? name ms
  | _ => .error (.expected "an object")

/-- A record as a JSON object. In a text its members may be repeated. -/
def codec (r : Record α α) : Codec α where
  encode a := .object (r.write a)
  decode := r.decodeObject
  outline := .record { mayRepeat := true } r.outlines

/-- A record as a JSON object that is open for members of any name. In a text
they are read with its own, which may not be repeated. -/
def openCodec (r : Record α α) : Codec α where
  encode a := .object (r.write a)
  decode := r.decodeObject
  outline := .record { readsUnknown := true } r.outlines

/-- The members a list of values stands for: one value per slot, in order. -/
def assign : List Slot → List Json → Except WireError (List (String × Json))
  | [], [] => .ok []
  | [], _ :: _ => .error (.expected "a shorter array")
  | s :: slots, [] => if s.omissible then assign slots [] else .error (.missing s.name)
  | s :: slots, j :: js => (assign slots js).map ((s.name, j) :: ·)

/-- A record as a JSON object that is also read from an array of its members'
values in declared order. In a text its members may not be repeated. -/
def positionalCodec (r : Record α α) : Codec α where
  encode a := .object (r.write a)
  decode
    | .arr js => do
      let ms ← assign r.slots js
      r.read fun name => Entries.find? name ms
    | j => r.decodeObject j
  outline := .record { positional := true } r.outlines

end Record

end AgentOperator
