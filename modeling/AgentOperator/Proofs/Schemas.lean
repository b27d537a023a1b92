import AgentOperator.Codec.Schema
import AgentOperator.Proofs.Codecs

/-!
AgentOperator.Proofs.Schemas — described values read back from what they are
written as.

A schema whose objects name no member twice keeps every value that is *sound*:
its instants are known ones, and where any JSON may stand as a member that may
be missing, it is not null, since null would be read as missing
(`Schema.decode_encode`). Whatever is read is sound (`Schema.sound_of_decode`),
so what a structure carries along survives being read and written any number of
times.
-/

namespace AgentOperator

instance : Codec.intOrString.Lossless where
  keeps
    | .int i => by
      refine ⟨?_, nofun⟩
      show IntOrString.int <$> Codec.int32.decode (Codec.int32.encode i) = _
      rw [(Codec.Lossless.keeps (c := Codec.int32) i).decode_encode]
      rfl
    | .string _ => ⟨rfl, nofun⟩

namespace Schema

/-! ## Schemas -/

/-- Any JSON at all. -/
def isAny : Schema → Bool
  | .any => true
  | _ => false

mutual

/-- No object of the schema names a member twice, or insists on a member that
may be null. -/
def wellFormed : Schema → Bool
  | .list s => wellFormed s
  | .dict s => wellFormed s
  | .object fs => decide (fs.map (·.1)).Nodup && fieldsWellFormed fs
  | _ => true

def fieldsWellFormed : List (String × Presence × Schema) → Bool
  | [] => true
  | (_, p, s) :: fs =>
    (decide (p ≠ .mandatory) || !isAny s) && wellFormed s && fieldsWellFormed fs

end

theorem fieldsWellFormed_cons {name : String} {p : Presence} {s : Schema} {fs : Fields}
    (h : fieldsWellFormed ((name, p, s) :: fs) = true) :
    (p = .mandatory → s.isAny = false) ∧ s.wellFormed = true ∧ fieldsWellFormed fs = true := by
  simp only [fieldsWellFormed, Bool.and_eq_true, Bool.or_eq_true, decide_eq_true_eq,
    Bool.not_eq_true'] at h
  exact ⟨fun hp => h.1.1.resolve_left (absurd hp), h.1.2, h.2⟩

mutual

/-- No instants, and no place for any JSON at all. -/
def plain : Schema → Bool
  | .time => false
  | .any => false
  | .list s => plain s
  | .dict s => plain s
  | .object fs => fieldsPlain fs
  | _ => true

def fieldsPlain : List (String × Presence × Schema) → Bool
  | [] => true
  | (_, _, s) :: fs => plain s && fieldsPlain fs

end

/-! ## Sound values -/

mutual

/-- The value is one that can be read. -/
def Sound : (s : Schema) → Value s → Prop
  | .time, t => Timestamp.Known t
  | .list s, v => ∀ x ∈ (show List (Value s) from v), Sound s x
  | .dict s, v => ∀ e ∈ (show Dict (Value s) from v).entries, Sound s e.2
  | .object fs, v => FieldsSound fs v
  | .string, _ => True
  | .bool, _ => True
  | .int32, _ => True
  | .int64, _ => True
  | .intOrString, _ => True
  | .bytes, _ => True
  | .any, _ => True

/-- Every member's value is one that can be read, and none that may be missing
looks as if it were. -/
def FieldsSound : (fs : List (String × Presence × Schema)) → FieldValues fs → Prop
  | [], _ => True
  | (_, .optional, s) :: fs, (v, vs) =>
    (∀ x, v = some x → Sound s x ∧ encode s x ≠ .null) ∧ FieldsSound fs vs
  | (_, .required, s) :: fs, (v, vs) => Sound s v ∧ FieldsSound fs vs
  | (_, .mandatory, s) :: fs, (v, vs) => Sound s v ∧ FieldsSound fs vs

end

/-- Only where any JSON may stand is null ever written. -/
theorem encode_ne_null {s : Schema} (h : s.isAny = false) (v : Value s) : encode s v ≠ .null := by
  cases s <;> simp only [isAny, Bool.true_eq_false] at h <;>
    simp only [encode, Codec.string, Codec.bool, Codec.int32, Codec.int64, Codec.bytes,
      Codec.timestamp, Json.object, Json.int, ne_eq, reduceCtorEq, not_false_eq_true]
  case intOrString => cases v <;> exact nofun

/-- Null is what the default is written as. -/
theorem eq_default_of_encode_eq_null {s : Schema} {v : Value s} (h : encode s v = .null) :
    v = Value.default s := by
  by_cases hany : s.isAny = true
  · cases s <;> simp only [isAny, Bool.false_eq_true] at hany
    exact h
  · exact absurd h (encode_ne_null (Bool.eq_false_iff.2 hany) v)

theorem isAny_of_plain {s : Schema} (h : s.plain = true) : s.isAny = false := by
  cases s <;> simp only [plain, Bool.false_eq_true] at h <;> rfl

mutual

/-- Every value of a plain schema can be read. -/
theorem sound_of_plain : (s : Schema) → s.plain = true → (v : Value s) → Sound s v
  | .list s, h, _ => fun x _ => sound_of_plain s h x
  | .dict s, h, _ => fun e _ => sound_of_plain s h e.2
  | .object fs, h, v => fieldsSound_of_plain fs h v
  | .string, _, _ => trivial
  | .bool, _, _ => trivial
  | .int32, _, _ => trivial
  | .int64, _, _ => trivial
  | .intOrString, _, _ => trivial
  | .bytes, _, _ => trivial

theorem fieldsSound_of_plain : (fs : List (String × Presence × Schema)) →
    fieldsPlain fs = true → (v : FieldValues fs) → FieldsSound fs v
  | [], _, _ => trivial
  | (_, .optional, s) :: fs, h, (v, vs) => by
    simp only [fieldsPlain, Bool.and_eq_true] at h
    exact ⟨fun x _ => ⟨sound_of_plain s h.1 x, encode_ne_null (isAny_of_plain h.1) x⟩,
      fieldsSound_of_plain fs h.2 vs⟩
  | (_, .required, s) :: fs, h, (v, vs) => by
    simp only [fieldsPlain, Bool.and_eq_true] at h
    exact ⟨sound_of_plain s h.1 v, fieldsSound_of_plain fs h.2 vs⟩
  | (_, .mandatory, s) :: fs, h, (v, vs) => by
    simp only [fieldsPlain, Bool.and_eq_true] at h
    exact ⟨sound_of_plain s h.1 v, fieldsSound_of_plain fs h.2 vs⟩

end

/-! ## What is written is read back -/

/-- The names of the members that are written. -/
theorem encodeFields_names : (fs : List (String × Presence × Schema)) → (v : FieldValues fs) →
    ((encodeFields fs v).map (·.1)).Sublist (fs.map (·.1))
  | [], _ => List.Sublist.slnil
  | (name, .optional, _) :: fs, (none, vs) => (encodeFields_names fs vs).cons name
  | (name, .optional, _) :: fs, (some _, vs) => (encodeFields_names fs vs).cons_cons name
  | (name, .required, _) :: fs, (_, vs) => (encodeFields_names fs vs).cons_cons name
  | (name, .mandatory, _) :: fs, (_, vs) => (encodeFields_names fs vs).cons_cons name

/-- Where members are looked up among the first one and others, the others are
found among themselves. -/
theorem look_of_cons {look : String → Option Json} {name : String} {j : Json}
    {ms : List (String × Json)} {names : List String} (hname : name ∉ names)
    (h : ∀ n ∈ name :: names, look n = Entries.find? n ((name, j) :: ms)) :
    look name = some j ∧ ∀ n ∈ names, look n = Entries.find? n ms := by
  refine ⟨by rw [h name (List.mem_cons_self ..), Entries.find?, if_pos rfl], fun n hn => ?_⟩
  have hne : name ≠ n := fun heq => hname (heq ▸ hn)
  rw [h n (List.mem_cons_of_mem _ hn), Entries.find?, if_neg hne]

mutual

/-- A sound value is read back from what it is written as. -/
theorem decode_encode : (s : Schema) → wellFormed s = true → (v : Value s) → Sound s v →
    decode s (encode s v) = .ok v
  | .string, _, _, _ => rfl
  | .bool, _, _, _ => rfl
  | .int32, _, v, _ => (Codec.Lossless.keeps (c := Codec.int32) v).decode_encode
  | .int64, _, v, _ => (Codec.Lossless.keeps (c := Codec.int64) v).decode_encode
  | .intOrString, _, v, _ => (Codec.Lossless.keeps (c := Codec.intOrString) v).decode_encode
  | .bytes, _, v, _ => (Codec.Lossless.keeps (c := Codec.bytes) v).decode_encode
  | .time, _, t, h => by
    have hkeeps : Codec.timestamp.Keeps t := Codec.timestamp_keeps h
    simp only [decode, encode]
    exact hkeeps.decode_encode
  | .any, _, _, _ => rfl
  | .list s, hs, v, h =>
    Codec.mapM_decode_encode (c := s.codec) fun x hx => decode_encode s hs x (h x hx)
  | .dict s, hs, v, h =>
    Codec.dict_decode_encode (c := s.codec) (d := v) fun e he => decode_encode s hs e.2 (h e he)
  | .object fs, hs, v, h => by
    simp only [wellFormed, Bool.and_eq_true, decide_eq_true_eq] at hs
    exact decodeFields_encodeFields fs hs.1 hs.2 v h _ fun name _ =>
      Entries.find?_ofList name (hs.1.sublist (encodeFields_names fs v))

theorem decodeFields_encodeFields : (fs : List (String × Presence × Schema)) →
    (fs.map (·.1)).Nodup → fieldsWellFormed fs = true → (v : FieldValues fs) →
    FieldsSound fs v → (look : String → Option Json) →
    (∀ name ∈ fs.map (·.1), look name = Entries.find? name (encodeFields fs v)) →
    decodeFields fs look = .ok v
  | [], _, _, _, _, _, _ => rfl
  | (name, .optional, s) :: fs, hnodup, hfs, (none, vs), h, look, hlook => by
    obtain ⟨-, -, hfs⟩ := fieldsWellFormed_cons hfs
    obtain ⟨hname, hnodup⟩ := List.nodup_cons.1 hnodup
    have hnone : look name = none := by
      rw [hlook name (List.mem_cons_self ..)]
      exact Entries.find?_eq_none fun hmem => hname ((encodeFields_names fs vs).subset hmem)
    have hrest := decodeFields_encodeFields fs hnodup hfs vs h.2 look fun n hn =>
      hlook n (List.mem_cons_of_mem _ hn)
    simp only [decodeFields, hnone, hrest]
    rfl
  | (name, .optional, s) :: fs, hnodup, hfs, (some x, vs), h, look, hlook => by
    obtain ⟨-, hs, hfs⟩ := fieldsWellFormed_cons hfs
    obtain ⟨hname, hnodup⟩ := List.nodup_cons.1 hnodup
    obtain ⟨hfirst, hothers⟩ := look_of_cons hname hlook
    obtain ⟨hsound, hnull⟩ := h.1 x rfl
    have hrest := decodeFields_encodeFields fs hnodup hfs vs h.2 look hothers
    simp only [decodeFields, hfirst, hrest]
    rw [decode_encode s hs x hsound]
    rfl
  | (name, .required, s) :: fs, hnodup, hfs, (x, vs), h, look, hlook => by
    obtain ⟨-, hs, hfs⟩ := fieldsWellFormed_cons hfs
    obtain ⟨hname, hnodup⟩ := List.nodup_cons.1 hnodup
    obtain ⟨hfirst, hothers⟩ := look_of_cons hname hlook
    have hrest := decodeFields_encodeFields fs hnodup hfs vs h.2 look hothers
    simp only [decodeFields, hfirst, hrest]
    split
    · contradiction
    · rename_i heq
      have hnull : encode s x = .null := Option.some.inj heq
      rw [eq_default_of_encode_eq_null hnull]
      rfl
    · rename_i heq
      cases heq
      rw [decode_encode s hs x h.1]
      rfl
  | (name, .mandatory, s) :: fs, hnodup, hfs, (x, vs), h, look, hlook => by
    obtain ⟨hany, hs, hfs⟩ := fieldsWellFormed_cons hfs
    obtain ⟨hname, hnodup⟩ := List.nodup_cons.1 hnodup
    obtain ⟨hfirst, hothers⟩ := look_of_cons hname hlook
    have hnull : encode s x ≠ .null := encode_ne_null (hany rfl) x
    have hrest := decodeFields_encodeFields fs hnodup hfs vs h.2 look hothers
    simp only [decodeFields, hfirst, hrest]
    rw [decode_encode s hs x h.1]
    rfl

end

/-! ## What is written can be read -/

mutual

/-- All instants in the value are known. -/
def Dated : (s : Schema) → Value s → Prop
  | .time, t => Timestamp.Known t
  | .list s, v => ∀ x ∈ (show List (Value s) from v), Dated s x
  | .dict s, v => ∀ e ∈ (show Dict (Value s) from v).entries, Dated s e.2
  | .object fs, v => FieldsDated fs v
  | .string, _ => True
  | .bool, _ => True
  | .int32, _ => True
  | .int64, _ => True
  | .intOrString, _ => True
  | .bytes, _ => True
  | .any, _ => True

def FieldsDated : (fs : List (String × Presence × Schema)) → FieldValues fs → Prop
  | [], _ => True
  | (_, .optional, s) :: fs, (v, vs) => (∀ x, v = some x → Dated s x) ∧ FieldsDated fs vs
  | (_, .required, s) :: fs, (v, vs) => Dated s v ∧ FieldsDated fs vs
  | (_, .mandatory, s) :: fs, (v, vs) => Dated s v ∧ FieldsDated fs vs

end

mutual

/-- What a dated value is written as can be read. It may be read as another value: an
optional member with null for its value is as good as missing. -/
theorem exists_decode_encode : (s : Schema) → wellFormed s = true → (v : Value s) → Dated s v →
    ∃ v', decode s (encode s v) = .ok v'
  | .string, hs, v, _ => ⟨v, decode_encode .string hs v trivial⟩
  | .bool, hs, v, _ => ⟨v, decode_encode .bool hs v trivial⟩
  | .int32, hs, v, _ => ⟨v, decode_encode .int32 hs v trivial⟩
  | .int64, hs, v, _ => ⟨v, decode_encode .int64 hs v trivial⟩
  | .intOrString, hs, v, _ => ⟨v, decode_encode .intOrString hs v trivial⟩
  | .bytes, hs, v, _ => ⟨v, decode_encode .bytes hs v trivial⟩
  | .any, hs, v, _ => ⟨v, decode_encode .any hs v trivial⟩
  | .time, hs, v, h => ⟨v, decode_encode .time hs v h⟩
  | .list s, hs, v, h => Codec.exists_mapM_encode (c := s.codec) fun x hx =>
      exists_decode_encode s hs x (h x hx)
  | .dict s, hs, v, h => Codec.exists_dict_decode_encode (c := s.codec) (d := v) fun e he =>
      exists_decode_encode s hs e.2 (h e he)
  | .object fs, hs, v, h => by
    simp only [wellFormed, Bool.and_eq_true, decide_eq_true_eq] at hs
    obtain ⟨v', hread⟩ := exists_decodeFields fs hs.1 hs.2 v h
    exact ⟨v', hread _ fun name _ =>
      Entries.find?_ofList name (hs.1.sublist (encodeFields_names fs v))⟩

theorem exists_decodeFields : (fs : List (String × Presence × Schema)) →
    (fs.map (·.1)).Nodup → fieldsWellFormed fs = true → (v : FieldValues fs) →
    FieldsDated fs v → ∃ v' : FieldValues fs, ∀ look : String → Option Json,
    (∀ name ∈ fs.map (·.1), look name = Entries.find? name (encodeFields fs v)) →
    decodeFields fs look = .ok v'
  | [], _, _, _, _ => ⟨(), fun _ _ => rfl⟩
  | (name, .optional, s) :: fs, hnodup, hfs, (none, vs), h => by
    obtain ⟨-, -, hfs⟩ := fieldsWellFormed_cons hfs
    obtain ⟨hname, hnodup⟩ := List.nodup_cons.1 hnodup
    obtain ⟨vs', hrest⟩ := exists_decodeFields fs hnodup hfs vs h.2
    refine ⟨(none, vs'), fun look hlook => ?_⟩
    have hnone : look name = none := by
      rw [hlook name (List.mem_cons_self ..)]
      exact Entries.find?_eq_none fun hmem => hname ((encodeFields_names fs vs).subset hmem)
    simp only [decodeFields, hnone, hrest look fun n hn => hlook n (List.mem_cons_of_mem _ hn)]
    rfl
  | (name, .optional, s) :: fs, hnodup, hfs, (some x, vs), h => by
    obtain ⟨-, hs, hfs⟩ := fieldsWellFormed_cons hfs
    obtain ⟨hname, hnodup⟩ := List.nodup_cons.1 hnodup
    obtain ⟨vs', hrest⟩ := exists_decodeFields fs hnodup hfs vs h.2
    obtain ⟨x', hx'⟩ := exists_decode_encode s hs x (h.1 x rfl)
    by_cases hnull : encode s x = .null
    · -- Written as null, the member is read as if it were missing.
      refine ⟨(none, vs'), fun look hlook => ?_⟩
      obtain ⟨hfirst, hothers⟩ := look_of_cons hname hlook
      simp only [decodeFields, hfirst, hnull, hrest look hothers]
      rfl
    · refine ⟨(some x', vs'), fun look hlook => ?_⟩
      obtain ⟨hfirst, hothers⟩ := look_of_cons hname hlook
      simp only [decodeFields, hfirst, hrest look hothers]
      rw [hx']
      rfl
  | (name, .required, s) :: fs, hnodup, hfs, (x, vs), h => by
    obtain ⟨-, hs, hfs⟩ := fieldsWellFormed_cons hfs
    obtain ⟨hname, hnodup⟩ := List.nodup_cons.1 hnodup
    obtain ⟨vs', hrest⟩ := exists_decodeFields fs hnodup hfs vs h.2
    obtain ⟨x', hx'⟩ := exists_decode_encode s hs x h.1
    by_cases hnull : encode s x = .null
    · refine ⟨(Value.default s, vs'), fun look hlook => ?_⟩
      obtain ⟨hfirst, hothers⟩ := look_of_cons hname hlook
      simp only [decodeFields, hfirst, hnull, hrest look hothers]
      rfl
    · refine ⟨(x', vs'), fun look hlook => ?_⟩
      obtain ⟨hfirst, hothers⟩ := look_of_cons hname hlook
      simp only [decodeFields, hfirst, hrest look hothers]
      rw [hx']
      rfl
  | (name, .mandatory, s) :: fs, hnodup, hfs, (x, vs), h => by
    obtain ⟨hany, hs, hfs⟩ := fieldsWellFormed_cons hfs
    obtain ⟨hname, hnodup⟩ := List.nodup_cons.1 hnodup
    obtain ⟨vs', hrest⟩ := exists_decodeFields fs hnodup hfs vs h.2
    obtain ⟨x', hx'⟩ := exists_decode_encode s hs x h.1
    have hnull : encode s x ≠ .null := encode_ne_null (hany rfl) x
    refine ⟨(x', vs'), fun look hlook => ?_⟩
    obtain ⟨hfirst, hothers⟩ := look_of_cons hname hlook
    simp only [decodeFields, hfirst, hrest look hothers]
    rw [hx']
    rfl

end

/-! ## What is read is sound -/

mutual

theorem sound_default : (s : Schema) → Sound s (Value.default s)
  | .time => show Timestamp.Known ⟨1970, 1, 1, 0, 0, 0⟩ by decide
  | .list _ => fun _ hx => nomatch hx
  | .dict _ => fun _ he => nomatch he
  | .object fs => fieldsSound_default fs
  | .string => trivial
  | .bool => trivial
  | .int32 => trivial
  | .int64 => trivial
  | .intOrString => trivial
  | .bytes => trivial
  | .any => trivial

theorem fieldsSound_default :
    (fs : List (String × Presence × Schema)) → FieldsSound fs (FieldValues.default fs)
  | [] => trivial
  | (_, .optional, _) :: fs => ⟨nofun, fieldsSound_default fs⟩
  | (_, .required, s) :: fs => ⟨sound_default s, fieldsSound_default fs⟩
  | (_, .mandatory, s) :: fs => ⟨sound_default s, fieldsSound_default fs⟩

end

/-- Only null is read as a value that is written as null. -/
theorem encode_ne_null_of_decode {s : Schema} {j : Json} {v : Value s} (hj : j ≠ .null)
    (h : decode s j = .ok v) : encode s v ≠ .null := by
  by_cases hany : s.isAny = true
  · cases s <;> simp only [isAny, Bool.false_eq_true] at hany
    cases h
    exact hj
  · exact encode_ne_null (Bool.eq_false_iff.2 hany) v

mutual

/-- Every value that is read is sound. -/
theorem sound_of_decode : (s : Schema) → (j : Json) → (v : Value s) → decode s j = .ok v →
    Sound s v
  | .time, _, _, h => Codec.known_of_decode_timestamp h
  | .list s, j, v, h => by
    cases j <;> simp only [decode, reduceCtorEq] at h
    intro x hx
    obtain ⟨i, -, hi⟩ := Codec.mem_mapM h hx
    exact sound_of_decode s i x hi
  | .dict s, j, v, h => by
    cases j <;> simp only [decode, reduceCtorEq] at h
    intro e he
    obtain ⟨i, hi⟩ := Codec.mem_decodeEntries h he
    exact sound_of_decode s i e.2 hi
  | .object fs, j, v, h => by
    cases j <;> simp only [decode, reduceCtorEq] at h
    exact fieldsSound_of_decode fs _ v h
  | .string, _, _, _ => trivial
  | .bool, _, _, _ => trivial
  | .int32, _, _, _ => trivial
  | .int64, _, _, _ => trivial
  | .intOrString, _, _, _ => trivial
  | .bytes, _, _, _ => trivial
  | .any, _, _, _ => trivial

theorem fieldsSound_of_decode : (fs : List (String × Presence × Schema)) →
    (look : String → Option Json) → (v : FieldValues fs) → decodeFields fs look = .ok v →
    FieldsSound fs v
  | [], _, _, _ => trivial
  | (name, .optional, s) :: fs, look, (v, vs), h => by
    obtain ⟨_, hv, h⟩ := Except.bind_eq_ok.1 h
    obtain ⟨_, hvs, h⟩ := Except.bind_eq_ok.1 h
    cases h
    refine ⟨fun x hx => ?_, fieldsSound_of_decode fs look vs hvs⟩
    subst hx
    split at hv
    · cases hv
    · cases hv
    · rename_i j hnull _
      obtain ⟨y, hy, heq⟩ := Except.map_eq_ok.1 hv
      cases heq
      exact ⟨sound_of_decode s j x hy, encode_ne_null_of_decode (fun hj => hnull (by rw [hj])) hy⟩
  | (name, .required, s) :: fs, look, (v, vs), h => by
    obtain ⟨_, hv, h⟩ := Except.bind_eq_ok.1 h
    obtain ⟨_, hvs, h⟩ := Except.bind_eq_ok.1 h
    cases h
    refine ⟨?_, fieldsSound_of_decode fs look vs hvs⟩
    split at hv
    · cases hv
      exact sound_default s
    · cases hv
      exact sound_default s
    · exact sound_of_decode s _ v hv
  | (name, .mandatory, s) :: fs, look, (v, vs), h => by
    obtain ⟨_, hv, h⟩ := Except.bind_eq_ok.1 h
    obtain ⟨_, hvs, h⟩ := Except.bind_eq_ok.1 h
    cases h
    refine ⟨?_, fieldsSound_of_decode fs look vs hvs⟩
    split at hv
    · cases hv
    · cases hv
    · exact sound_of_decode s _ v hv

end

end Schema

/-! ## Codecs of described values -/

namespace Schema

/-- Members that can be written and read back whatever they hold. -/
class Plain (fs : Fields) : Prop where
  names : (fs.map (·.1)).Nodup
  wellFormed : fieldsWellFormed fs = true
  plain : fieldsPlain fs = true

theorem codec_keeps {s : Schema} (hs : s.wellFormed = true) (hany : s.isAny = false) {v : Value s}
    (h : Sound s v) : s.codec.Keeps v :=
  ⟨decode_encode s hs v h, encode_ne_null hany v⟩

end Schema

theorem Carried.codec_keeps {s : Schema} (hs : s.wellFormed = true) (hany : s.isAny = false)
    {v : Carried s} (h : Schema.Sound s v.value) : Carried.codec.Keeps v :=
  Codec.imap_keeps (Schema.codec_keeps hs hany h) rfl

instance {fs : Fields} [Schema.Plain fs] : (Carried.codec (s := .object fs)).Lossless where
  keeps v :=
    Carried.codec_keeps
      (by simp [Schema.wellFormed, Schema.Plain.names, Schema.Plain.wellFormed]) rfl
      (Schema.fieldsSound_of_plain fs Schema.Plain.plain v.value)

/-- A part that holds nothing can be read. -/
theorem Rest.sound_default (fs : Fields) : Schema.FieldsSound fs (default : Rest fs).values :=
  Schema.fieldsSound_default fs

namespace Record

variable {σ : Type} {fs : Fields}

theorem rest_names (get : σ → Rest fs) : (rest get).names = fs.map (·.1) := by
  simp [names, rest]

/-- The members carried along are restored if they can be read at all. -/
theorem rest_restores {get : σ → Rest fs} (hfs : Schema.fieldsWellFormed fs = true) {s : σ}
    (h : Schema.FieldsSound fs (get s).values) : (rest get).Restores s (get s) := by
  refine ⟨?_, fun hnodup look hlook => ?_⟩
  · rw [rest_names]
    exact Schema.encodeFields_names fs (get s).values
  · rw [rest_names] at hnodup hlook
    have hread : Schema.decodeFields fs look = .ok (get s).values :=
      Schema.decodeFields_encodeFields fs hnodup hfs _ h look hlook
    show Rest.mk <$> Schema.decodeFields fs look = _
    rw [hread]
    rfl

theorem exists_rest_restores {get : σ → Rest fs} (hnodup : (fs.map (·.1)).Nodup)
    (hfs : Schema.fieldsWellFormed fs = true) {s : σ}
    (h : Schema.FieldsDated fs (get s).values) : ∃ r, (rest get).Restores s r := by
  obtain ⟨values, hread⟩ := Schema.exists_decodeFields fs hnodup hfs _ h
  refine ⟨⟨values⟩, ?_, fun _ look hlook => ?_⟩
  · rw [rest_names]
    exact Schema.encodeFields_names fs (get s).values
  · rw [rest_names] at hlook
    show Rest.mk <$> Schema.decodeFields fs look = _
    rw [hread look hlook]
    rfl

instance [Schema.Plain fs] {get : σ → Rest fs} : Lossless (rest get) get where
  restores s :=
    rest_restores Schema.Plain.wellFormed
      (Schema.fieldsSound_of_plain fs Schema.Plain.plain (get s).values)

end Record

end AgentOperator
