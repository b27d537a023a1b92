import AgentOperator.Codec.Basic
import AgentOperator.Proofs.Texts
import Mathlib.Data.List.Forall2

/-!
AgentOperator.Proofs.Codecs — values read back from what they are written as.

A codec keeps a value (`Codec.Keeps`) when it reads back what it writes for it,
and it is lossless when it keeps every value. A record restores a value
(`Record.Restores`) when it does so member by member, and the members are looked
up among those of a whole object: since no two of them have one name, each is
found as it was written (`Record.codec_keeps`).

Both come as classes, so that for a record of lossless members nothing is left
to show but that their names differ.
-/

namespace AgentOperator

/-! ## Results -/

namespace Except

variable {ε α β : Type}

theorem bind_eq_ok {x : Except ε α} {f : α → Except ε β} {b : β} :
    (x >>= f) = .ok b ↔ ∃ a, x = .ok a ∧ f a = .ok b := by
  cases x <;> simp [bind, Except.bind]

theorem map_eq_ok {x : Except ε α} {f : α → β} {b : β} :
    x.map f = .ok b ↔ ∃ a, x = .ok a ∧ f a = b := by
  cases x <;> simp [Except.map]

/-- A list of results is that of each. -/
theorem mapM_eq_ok_iff {f : α → Except ε β} {xs : List α} {ys : List β} :
    xs.mapM f = .ok ys ↔ List.Forall₂ (fun x y => f x = .ok y) xs ys := by
  induction xs generalizing ys with
  | nil => simp [pure, Except.pure, eq_comm]
  | cons x xs ih =>
    rw [List.mapM_cons]
    constructor
    · intro h
      obtain ⟨y, hy, h⟩ := bind_eq_ok.1 h
      obtain ⟨rest, hrest, h⟩ := bind_eq_ok.1 h
      cases h
      exact .cons hy (ih.1 hrest)
    · intro h
      cases h with
      | cons hy hrest =>
        rw [hy, ih.2 hrest]
        rfl

end Except

/-! ## Members in an object -/

namespace Entries

variable {V : Type u}

theorem insert_append_of_lt {k : String} {v : V} {es : List (String × V)}
    (h : ∀ e ∈ es, e.1 < k) : insert k v es = es ++ [(k, v)] := by
  induction es with
  | nil => rfl
  | cons e es ih =>
    have he : e.1 < k := h e (List.mem_cons_self ..)
    have hnot : ¬ k < e.1 := fun hlt => String.lt_irrefl _ (String.lt_trans he hlt)
    simp only [insert, if_neg hnot, if_pos he, List.cons_append]
    rw [ih fun d hd => h d (List.mem_cons_of_mem _ hd)]

theorem foldl_insert_of_sorted {es acc : List (String × V)} (h : Sorted (acc ++ es)) :
    es.foldl (fun acc e => insert e.1 e.2 acc) acc = acc ++ es := by
  induction es generalizing acc with
  | nil => simp
  | cons e es ih =>
    have hlt : ∀ d ∈ acc, d.1 < e.1 := fun d hd =>
      (List.pairwise_append.1 h).2.2 d hd e (List.mem_cons_self ..)
    rw [List.foldl_cons, insert_append_of_lt hlt, ih (by simpa using h)]
    simp

/-- Entries in key order are written as they stand. -/
theorem ofList_of_sorted {es : List (String × V)} (h : Sorted es) : ofList es = es :=
  foldl_insert_of_sorted (by simpa using h)

theorem mem_of_mem_foldl_insert {es acc : List (String × V)} {e : String × V}
    (h : e ∈ es.foldl (fun acc e => insert e.1 e.2 acc) acc) : e ∈ acc ∨ e ∈ es := by
  induction es generalizing acc with
  | nil => exact .inl h
  | cons d es ih =>
    rcases ih h with h | h
    · rcases mem_insert h with rfl | h
      · exact .inr (List.mem_cons_self ..)
      · exact .inl h
    · exact .inr (List.mem_cons_of_mem _ h)

/-- No entry is made up. -/
theorem mem_of_mem_ofList {es : List (String × V)} {e : String × V} (h : e ∈ ofList es) :
    e ∈ es :=
  (mem_of_mem_foldl_insert h).resolve_left List.not_mem_nil

theorem find?_eq_none {k : String} {es : List (String × V)} (h : k ∉ es.map (·.1)) :
    find? k es = none := by
  induction es with
  | nil => rfl
  | cons e es ih =>
    simp only [List.map_cons, List.mem_cons, not_or] at h
    rw [find?, if_neg fun heq => h.1 heq.symm, ih h.2]

theorem find?_append (k : String) (es fs : List (String × V)) :
    find? k (es ++ fs) = (find? k es).or (find? k fs) := by
  induction es with
  | nil => rfl
  | cons e es ih =>
    rw [List.cons_append, find?, find?]
    split
    · rfl
    · exact ih

theorem find?_foldl_insert (k : String) {es : List (String × V)} (hes : (es.map (·.1)).Nodup)
    (acc : List (String × V)) :
    find? k (es.foldl (fun acc e => insert e.1 e.2 acc) acc)
      = (find? k es).or (find? k acc) := by
  induction es generalizing acc with
  | nil => rfl
  | cons e es ih =>
    simp only [List.map_cons, List.nodup_cons] at hes
    rw [List.foldl_cons, ih hes.2, find?_insert, find?]
    by_cases h : e.1 = k
    · subst h
      simp [find?_eq_none hes.1]
    · simp [h]

/-- Entries of different keys are found as if they stood in a list. -/
theorem find?_ofList (k : String) {es : List (String × V)} (hes : (es.map (·.1)).Nodup) :
    find? k (ofList es) = find? k es := by
  rw [ofList, find?_foldl_insert k hes, find?_nil, Option.or_none]

end Entries

theorem Dict.ofList_entries {V : Type u} (d : Dict V) : Dict.ofList d.entries = d :=
  Dict.ext_entries (Entries.ofList_of_sorted d.sorted)

/-! ## Codecs -/

namespace Codec

variable {α β : Type}

/-- What is written for the value is read back as it, and is not null. -/
structure Keeps (c : Codec α) (a : α) : Prop where
  decode_encode : c.decode (c.encode a) = .ok a
  ne_null : c.encode a ≠ .null

/-- Every value is kept. -/
class Lossless (c : Codec α) : Prop where
  keeps : ∀ a, c.Keeps a

instance : Lossless string := ⟨fun _ => ⟨rfl, nofun⟩⟩

instance : Lossless bool := ⟨fun _ => ⟨rfl, nofun⟩⟩

theorem int32_decode (i : Int) : int32.decode (.int i)
    = if Int32.minValue.toInt ≤ i ∧ i ≤ Int32.maxValue.toInt then .ok (Int32.ofInt i)
      else .error (.expected "an integer of 32 bits") := rfl

theorem int64_decode (i : Int) : int64.decode (.int i)
    = if Int64.minValue.toInt ≤ i ∧ i ≤ Int64.maxValue.toInt then .ok (Int64.ofInt i)
      else .error (.expected "an integer of 64 bits") := rfl

instance : Lossless int32 where
  keeps i := by
    refine ⟨?_, nofun⟩
    have hbounds : Int32.minValue.toInt ≤ i.toInt ∧ i.toInt ≤ Int32.maxValue.toInt :=
      ⟨i.minValue_le_toInt, i.toInt_le⟩
    exact (int32_decode i.toInt).trans (by rw [if_pos hbounds, Int32.ofInt_toInt])

instance : Lossless int64 where
  keeps i := by
    refine ⟨?_, nofun⟩
    have hbounds : Int64.minValue.toInt ≤ i.toInt ∧ i.toInt ≤ Int64.maxValue.toInt :=
      ⟨i.minValue_le_toInt, i.toInt_le⟩
    exact (int64_decode i.toInt).trans (by rw [if_pos hbounds, Int64.ofInt_toInt])

instance : Lossless bytes where
  keeps b := by
    refine ⟨?_, nofun⟩
    have hread : Base64.decode? (String.ofList (Base64.encode b)).toList = some b := by
      rw [String.toList_ofList, Base64.decode?_encode]
    simp only [bytes, hread]

theorem timestamp_keeps {t : Timestamp} (h : t.Known) : timestamp.Keeps t := by
  refine ⟨?_, nofun⟩
  simp only [timestamp, Timestamp.parse?_render h]

/-- An instant that was read is known. -/
theorem known_of_decode_timestamp {j : Json} {t : Timestamp} (h : timestamp.decode j = .ok t) :
    t.Known := by
  cases j with
  | str s =>
    simp only [timestamp] at h
    split at h
    · rename_i t' hparse
      cases h
      exact Timestamp.known_of_parse? hparse
    · cases h
  | _ => cases h

theorem mapM_decode_encode {c : Codec α} {xs : List α}
    (h : ∀ x ∈ xs, c.decode (c.encode x) = .ok x) :
    (xs.map c.encode).mapM c.decode = .ok xs := by
  rw [Except.mapM_eq_ok_iff, List.forall₂_map_left_iff, List.forall₂_same]
  exact h

theorem exists_mapM_encode {c : Codec α} {xs : List α}
    (h : ∀ x ∈ xs, ∃ a, c.decode (c.encode x) = .ok a) :
    ∃ ys, (xs.map c.encode).mapM c.decode = .ok ys := by
  induction xs with
  | nil => exact ⟨[], rfl⟩
  | cons x xs ih =>
    obtain ⟨y, hy⟩ := h x (List.mem_cons_self ..)
    obtain ⟨ys, hys⟩ := ih fun z hz => h z (List.mem_cons_of_mem _ hz)
    refine ⟨y :: ys, ?_⟩
    rw [List.map_cons, List.mapM_cons, hy, hys]
    rfl

theorem mem_mapM {decode : Json → Except WireError α} {js : List Json} {xs : List α}
    (h : js.mapM decode = .ok xs) {x : α} (hx : x ∈ xs) : ∃ j ∈ js, decode j = .ok x := by
  have hall := Except.mapM_eq_ok_iff.1 h
  clear h
  induction hall with
  | nil => cases hx
  | @cons j y js ys hy _ ih =>
    rcases List.mem_cons.1 hx with rfl | hx
    · exact ⟨j, List.mem_cons_self .., hy⟩
    · obtain ⟨i, hi, hix⟩ := ih hx
      exact ⟨i, List.mem_cons_of_mem _ hi, hix⟩

theorem list_keeps {c : Codec α} {xs : List α} (h : ∀ x ∈ xs, c.Keeps x) : c.list.Keeps xs :=
  ⟨mapM_decode_encode fun x hx => (h x hx).decode_encode, nofun⟩

instance {c : Codec α} [Lossless c] : Lossless c.list :=
  ⟨fun _ => list_keeps fun x _ => Lossless.keeps x⟩

theorem decodeEntries_encode {encode : α → Json} {decode : Json → Except WireError α}
    {es : List (String × α)} (h : ∀ e ∈ es, decode (encode e.2) = .ok e.2) :
    decodeEntries decode (es.map fun (k, a) => (k, encode a)) = .ok es := by
  induction es with
  | nil => rfl
  | cons e es ih =>
    simp only [List.map_cons, decodeEntries]
    rw [h e (List.mem_cons_self ..), ih fun d hd => h d (List.mem_cons_of_mem _ hd)]
    rfl

theorem exists_decodeEntries_encode {encode : α → Json} {decode : Json → Except WireError α}
    {es : List (String × α)} (h : ∀ e ∈ es, ∃ a, decode (encode e.2) = .ok a) :
    ∃ fs, decodeEntries decode (es.map fun (k, a) => (k, encode a)) = .ok fs := by
  induction es with
  | nil => exact ⟨[], rfl⟩
  | cons e es ih =>
    obtain ⟨a, ha⟩ := h e (List.mem_cons_self ..)
    obtain ⟨fs, hfs⟩ := ih fun d hd => h d (List.mem_cons_of_mem _ hd)
    refine ⟨(e.1, a) :: fs, ?_⟩
    simp only [List.map_cons, decodeEntries]
    rw [ha, hfs]
    rfl

theorem mem_of_decodeEntries {decode : Json → Except WireError α} {ms : List (String × Json)}
    {es : List (String × α)} (h : decodeEntries decode ms = .ok es) {e : String × α}
    (he : e ∈ es) : ∃ j, decode j = .ok e.2 := by
  induction ms generalizing es with
  | nil =>
    cases h
    cases he
  | cons m ms ih =>
    simp only [decodeEntries] at h
    split at h
    · cases h
    · rename_i a ha
      obtain ⟨fs, hfs, heq⟩ := Except.map_eq_ok.1 h
      subst heq
      rcases List.mem_cons.1 he with rfl | he
      · exact ⟨m.2, ha⟩
      · exact ih hfs he

/-- Every value in a map that was read was read by itself. -/
theorem mem_decodeEntries {decode : Json → Except WireError α} {ms : List (String × Json)}
    {d : Dict α} (h : (decodeEntries decode ms).map Dict.ofList = .ok d) {e : String × α}
    (he : e ∈ d.entries) : ∃ j, decode j = .ok e.2 := by
  obtain ⟨es, hes, rfl⟩ := Except.map_eq_ok.1 h
  exact mem_of_decodeEntries hes (Entries.mem_of_mem_ofList he)

/-- The entries of a map are written in their order. -/
theorem object_entries (d : Dict α) (encode : α → Json) :
    Json.object (d.entries.map fun (k, a) => (k, encode a))
      = .obj (d.entries.map fun (k, a) => (k, encode a)) := by
  rw [Json.object, Entries.ofList_of_sorted]
  exact List.pairwise_map.2 d.sorted

theorem dict_decode_encode {c : Codec α} {d : Dict α}
    (h : ∀ e ∈ d.entries, c.decode (c.encode e.2) = .ok e.2) :
    c.dict.decode (c.dict.encode d) = .ok d := by
  show c.dict.decode (Json.object (d.entries.map fun (k, a) => (k, c.encode a))) = _
  rw [object_entries]
  show (decodeEntries c.decode _).map Dict.ofList = _
  rw [decodeEntries_encode h]
  exact congrArg Except.ok d.ofList_entries

/-- A map can be read if all its values can. -/
theorem exists_dict_decode_encode {c : Codec α} {d : Dict α}
    (h : ∀ e ∈ d.entries, ∃ a, c.decode (c.encode e.2) = .ok a) :
    ∃ d', c.dict.decode (c.dict.encode d) = .ok d' := by
  obtain ⟨es, hes⟩ := exists_decodeEntries_encode h
  refine ⟨Dict.ofList es, ?_⟩
  show c.dict.decode (Json.object (d.entries.map fun (k, a) => (k, c.encode a))) = _
  rw [object_entries]
  show (decodeEntries c.decode _).map Dict.ofList = _
  rw [hes]
  rfl

theorem dict_keeps {c : Codec α} {d : Dict α} (h : ∀ e ∈ d.entries, c.Keeps e.2) :
    c.dict.Keeps d :=
  ⟨dict_decode_encode fun e he => (h e he).decode_encode, nofun⟩

instance {c : Codec α} [Lossless c] : Lossless c.dict :=
  ⟨fun _ => dict_keeps fun e _ => Lossless.keeps e.2⟩

theorem imap_keeps {c : Codec α} {forth : α → β} {back : β → α} {b : β} (h : c.Keeps (back b))
    (hb : forth (back b) = b) : (c.imap forth back).Keeps b := by
  refine ⟨?_, h.ne_null⟩
  show forth <$> c.decode (c.encode (back b)) = _
  rw [h.decode_encode]
  exact congrArg Except.ok hb

end Codec

/-! ## Records -/

namespace Record

variable {σ τ α β : Type}

/-- The names of the members. -/
def names (r : Record σ α) : List String := r.slots.map (·.name)

/-- What is written for `s` has the names of the record's members, and is read
back as `a` from any object that has these members as they were written. -/
structure Restores (r : Record σ α) (s : σ) (a : α) : Prop where
  keys : ((r.write s).map (·.1)).Sublist r.names
  read : r.names.Nodup → ∀ look : String → Option Json,
    (∀ name ∈ r.names, look name = Entries.find? name (r.write s)) → r.read look = .ok a

/-- Whatever is written is read back, as what `get` takes from it. -/
class Lossless (r : Record σ α) (get : outParam (σ → α)) : Prop where
  restores : ∀ s, r.Restores s (get s)

theorem Lossless.restores_of_eq {r : Record σ α} {get : σ → α} [Lossless r get] {s : σ} {a : α}
    (h : get s = a) : r.Restores s a :=
  h ▸ Lossless.restores s

/-! ### Members -/

theorem decodeMember_encode {name : String} {c : Codec α} {a b : α}
    (h : c.decode (c.encode a) = .ok b) : decodeMember name c (c.encode a) = .ok b := by
  rw [decodeMember, h]

theorem find?_single (name : String) (j : Json) : Entries.find? name [(name, j)] = some j := by
  simp [Entries.find?]

theorem optional_restores {name : String} {get : σ → Option α} {c : Codec α} {s : σ}
    (h : ∀ a, get s = some a → c.Keeps a) : (optional name get c).Restores s (get s) := by
  cases hs : get s with
  | none =>
    refine ⟨by simp [optional, hs], fun _ look hlook => ?_⟩
    have hnone : look name = none := by
      simpa [optional, hs] using hlook name (List.mem_singleton.2 rfl)
    simp [optional, hnone]
  | some a =>
    have hkeeps := h a hs
    refine ⟨by simp [optional, hs, names], fun _ look hlook => ?_⟩
    have hsome : look name = some (c.encode a) := by
      simpa [optional, hs, find?_single] using hlook name (List.mem_singleton.2 rfl)
    simp only [optional, hsome]
    split
    · contradiction
    · rename_i heq
      exact absurd (Option.some.inj heq) hkeeps.ne_null
    · rename_i heq
      cases heq
      rw [decodeMember_encode hkeeps.decode_encode]
      rfl

instance {name : String} {get : σ → Option α} {c : Codec α} [c.Lossless] :
    Lossless (optional name get c) get :=
  ⟨fun _ => optional_restores fun a _ => Codec.Lossless.keeps a⟩

/-- The value may also be read back as another one. -/
theorem required_restores_as [Inhabited α] {name : String} {get : σ → α} {c : Codec α} {s : σ}
    {a : α} (hread : c.decode (c.encode (get s)) = .ok a) (hnull : c.encode (get s) ≠ .null) :
    (required name get c).Restores s a := by
  refine ⟨by simp [required, names], fun _ look hlook => ?_⟩
  have hsome : look name = some (c.encode (get s)) := by
    simpa [required, find?_single] using hlook name (List.mem_singleton.2 rfl)
  simp only [required, hsome]
  exact decodeMember_encode hread

theorem required_restores [Inhabited α] {name : String} {get : σ → α} {c : Codec α} {s : σ}
    (h : c.Keeps (get s)) : (required name get c).Restores s (get s) :=
  required_restores_as h.decode_encode h.ne_null

instance [Inhabited α] {name : String} {get : σ → α} {c : Codec α} [c.Lossless] :
    Lossless (required name get c) get :=
  ⟨fun s => required_restores (Codec.Lossless.keeps (get s))⟩

theorem mandatory_restores {name : String} {get : σ → α} {c : Codec α} {s : σ} {a : α}
    (h : c.decode (c.encode (get s)) = .ok a) : (mandatory name get c).Restores s a := by
  refine ⟨by simp [mandatory, names], fun _ look hlook => ?_⟩
  have hsome : look name = some (c.encode (get s)) := by
    simpa [mandatory, find?_single] using hlook name (List.mem_singleton.2 rfl)
  simp only [mandatory, hsome]
  exact decodeMember_encode h

instance {name : String} {get : σ → α} {c : Codec α} [c.Lossless] :
    Lossless (mandatory name get c) get :=
  ⟨fun s => mandatory_restores (Codec.Lossless.keeps (get s)).decode_encode⟩

theorem defaulted_restores {name : String} {get : σ → α} {c : Codec α} {value : α} {s : σ}
    {a : α} (h : c.decode (c.encode (get s)) = .ok a) :
    (defaulted name get c value).Restores s a := by
  refine ⟨by simp [defaulted, names], fun _ look hlook => ?_⟩
  have hsome : look name = some (c.encode (get s)) := by
    simpa [defaulted, find?_single] using hlook name (List.mem_singleton.2 rfl)
  simp only [defaulted, hsome]
  exact decodeMember_encode h

instance {name : String} {get : σ → α} {c : Codec α} {value : α} [c.Lossless] :
    Lossless (defaulted name get c value) get :=
  ⟨fun s => defaulted_restores (Codec.Lossless.keeps (get s)).decode_encode⟩

theorem unlessEmpty_restores {name : String} {get : σ → List α} {c : Codec α} {s : σ}
    (h : c.list.decode (c.list.encode (get s)) = .ok (get s)) :
    (unlessEmpty name get c).Restores s (get s) := by
  by_cases hs : (get s).isEmpty
  · have hwrite : (unlessEmpty name get c).write s = [] := if_pos hs
    refine ⟨by simp [hwrite], fun _ look hlook => ?_⟩
    have hnone : look name = none := by
      rw [hlook name (List.mem_singleton.2 rfl), hwrite]
      rfl
    simp only [unlessEmpty, hnone]
    rw [List.isEmpty_iff.1 hs]
  · have hwrite : (unlessEmpty name get c).write s = [(name, c.list.encode (get s))] := if_neg hs
    refine ⟨by rw [hwrite]; exact List.Sublist.refl _, fun _ look hlook => ?_⟩
    have hsome : look name = some (c.list.encode (get s)) := by
      rw [hlook name (List.mem_singleton.2 rfl), hwrite, find?_single]
    simp only [unlessEmpty, hsome]
    exact decodeMember_encode h

instance {name : String} {get : σ → List α} {c : Codec α} [c.Lossless] :
    Lossless (unlessEmpty name get c) get :=
  ⟨fun s => unlessEmpty_restores (Codec.Lossless.keeps (get s)).decode_encode⟩

instance {name value : String} : Lossless (constant (σ := σ) name value) fun _ => () where
  restores s := by
    refine ⟨by simp [constant, names], fun _ look hlook => ?_⟩
    have hsome : look name = some (.str value) := by
      simpa [constant, find?_single] using hlook name (List.mem_singleton.2 rfl)
    simp [constant, hsome]

/-! ### Putting members together -/

theorem pure_restores (a : α) (s : σ) : (pure a : Record σ α).Restores s a :=
  ⟨List.Sublist.slnil, fun _ _ _ => rfl⟩

instance (a : α) : Lossless (pure a : Record σ α) fun _ => a := ⟨pure_restores a⟩

theorem map_restores {r : Record σ α} {s : σ} {a : α} (f : α → β) (h : r.Restores s a) :
    (f <$> r).Restores s (f a) := by
  refine ⟨h.keys, fun hnodup look hlook => ?_⟩
  show f <$> r.read look = _
  rw [h.read hnodup look hlook]
  rfl

instance {r : Record σ α} {get : σ → α} {f : α → β} [Lossless r get] :
    Lossless (f <$> r) fun s => f (get s) :=
  ⟨fun s => map_restores f (Lossless.restores s)⟩

/-- Members that are looked up by the first names are not among the others. -/
theorem find?_append_left {names others : List String} {ms ns : List (String × Json)}
    (hnodup : (names ++ others).Nodup) (hns : (ns.map (·.1)).Sublist others) {name : String}
    (hname : name ∈ names) : Entries.find? name (ms ++ ns) = Entries.find? name ms := by
  have hother : name ∉ ns.map (·.1) := fun h =>
    (List.nodup_append.1 hnodup).2.2 name hname name (hns.subset h) rfl
  rw [Entries.find?_append, Entries.find?_eq_none hother, Option.or_none]

theorem find?_append_right {names others : List String} {ms ns : List (String × Json)}
    (hnodup : (others ++ names).Nodup) (hms : (ms.map (·.1)).Sublist others) {name : String}
    (hname : name ∈ names) : Entries.find? name (ms ++ ns) = Entries.find? name ns := by
  have hother : name ∉ ms.map (·.1) := fun h =>
    (List.nodup_append.1 hnodup).2.2 name (hms.subset h) name hname rfl
  rw [Entries.find?_append, Entries.find?_eq_none hother, Option.none_or]

/-- Members of different names do not get into each other's way. -/
theorem seq_restores {f : Record σ (α → β)} {r : Record σ α} {s : σ} {g : α → β} {a : α}
    (hf : f.Restores s g) (hr : r.Restores s a) : (f <*> r).Restores s (g a) := by
  have hnames : (f <*> r).names = f.names ++ r.names := List.map_append
  have hwrite : (f <*> r).write s = f.write s ++ r.write s := rfl
  refine ⟨?_, fun hnodup look hlook => ?_⟩
  · rw [hnames, hwrite, List.map_append]
    exact hf.keys.append hr.keys
  rw [hnames] at hnodup hlook
  rw [hwrite] at hlook
  obtain ⟨hfnodup, hrnodup, -⟩ := List.nodup_append.1 hnodup
  have hfirst : f.read look = .ok g := hf.read hfnodup look fun name hname => by
    rw [hlook name (List.mem_append_left _ hname), find?_append_left hnodup hr.keys hname]
  have hsecond : r.read look = .ok a := hr.read hrnodup look fun name hname => by
    rw [hlook name (List.mem_append_right _ hname), find?_append_right hnodup hf.keys hname]
  show (do let g ← f.read look; let a ← r.read look; return g a) = _
  rw [hfirst, hsecond]
  rfl

instance {f : Record σ (α → β)} {r : Record σ α} {get : σ → α → β} {get' : σ → α}
    [Lossless f get] [Lossless r get'] : Lossless (f <*> r) fun s => get s (get' s) :=
  ⟨fun s => seq_restores (Lossless.restores s) (Lossless.restores s)⟩

theorem after_restores {r : Record σ Unit} {k : Record σ α} {s : σ} {a : α}
    (hr : r.Restores s ()) (hk : k.Restores s a) : (after r k).Restores s a :=
  seq_restores (map_restores _ hr) hk

instance {r : Record σ Unit} {get : σ → Unit} {k : Record σ α} {get' : σ → α} [Lossless r get]
    [Lossless k get'] : Lossless (after r k) get' :=
  ⟨fun s => after_restores (Lossless.restores (r := r) s) (Lossless.restores s)⟩

theorem within_restores {r : Record τ α} {get : σ → τ} {s : σ} {a : α}
    (h : r.Restores (get s) a) : (within get r).Restores s a :=
  ⟨h.keys, h.read⟩

instance {r : Record τ α} {get : σ → τ} {get' : τ → α} [Lossless r get'] :
    Lossless (within get r) fun s => get' (get s) :=
  ⟨fun s => within_restores (Lossless.restores (get s))⟩

theorem names_positioned (r : Record σ α) : (positioned r).names = r.names := by
  simp [names, positioned]

theorem positioned_restores {r : Record σ α} {s : σ} {a : α} (h : r.Restores s a) :
    (positioned r).Restores s a := by
  refine ⟨by rw [names_positioned]; exact h.keys, fun hnodup look hlook => ?_⟩
  rw [names_positioned] at hnodup hlook
  exact h.read hnodup look hlook

instance {r : Record σ α} {get : σ → α} [Lossless r get] : Lossless (positioned r) get :=
  ⟨fun s => positioned_restores (Lossless.restores s)⟩

/-! ### What a reading went through -/

theorem seq_read_eq_ok {f : Record σ (α → β)} {r : Record σ α} {look : String → Option Json}
    {b : β} : (f <*> r).read look = .ok b ↔
      ∃ g a, f.read look = .ok g ∧ r.read look = .ok a ∧ g a = b := by
  show (do let g ← f.read look; let a ← r.read look; return g a) = _ ↔ _
  simp only [Except.bind_eq_ok, pure, Except.pure, Except.ok.injEq]
  exact ⟨fun ⟨g, hg, a, ha, hb⟩ => ⟨g, a, hg, ha, hb⟩, fun ⟨g, a, hg, ha, hb⟩ => ⟨g, hg, a, ha, hb⟩⟩

theorem after_read {r : Record σ Unit} {k : Record σ α} {look : String → Option Json} {a : α}
    (h : (after r k).read look = .ok a) : k.read look = .ok a := by
  obtain ⟨g, b, hg, hb, rfl⟩ := seq_read_eq_ok.1 h
  obtain ⟨_, -, rfl⟩ := Except.map_eq_ok.1 hg
  exact hb

theorem optional_read {name : String} {get : σ → Option α} {c : Codec α}
    {look : String → Option Json} {a : α} (h : (optional name get c).read look = .ok (some a)) :
    ∃ j, c.decode j = .ok a := by
  simp only [optional] at h
  split at h
  · cases h
  · cases h
  · rename_i j _ _
    obtain ⟨b, hb, heq⟩ := Except.map_eq_ok.1 h
    cases heq
    simp only [decodeMember] at hb
    split at hb
    · cases hb
      exact ⟨j, ‹_›⟩
    · cases hb

/-! ### Whole objects -/

/-- A record is read back from an object that has its members beside others. -/
theorem decodeObject_beside {r : Record σ α} {others : List (String × Json)} {s : σ} {a : α}
    (hnodup : (others.map (·.1) ++ r.names).Nodup) (h : r.Restores s a) :
    r.decodeObject (.object (others ++ r.write s)) = .ok a := by
  obtain ⟨-, hnames, -⟩ := List.nodup_append.1 hnodup
  have hall : ((others ++ r.write s).map (·.1)).Nodup := by
    rw [List.map_append]
    exact hnodup.sublist ((List.Sublist.refl _).append h.keys)
  refine h.read hnames _ fun name hname => ?_
  rw [Entries.find?_ofList name hall, find?_append_right hnodup (List.Sublist.refl _) hname]

/-- A record is read back from the object of its members. -/
theorem decodeObject_object {r : Record σ α} (hnodup : r.names.Nodup) {s : σ} {a : α}
    (h : r.Restores s a) : r.decodeObject (.object (r.write s)) = .ok a :=
  (decodeObject_beside hnodup h : r.decodeObject (.object ([] ++ r.write s)) = .ok a)

theorem codec_decode_encode {r : Record α α} (hnodup : r.names.Nodup) {a b : α}
    (h : r.Restores a b) : (codec r).decode ((codec r).encode a) = .ok b :=
  decodeObject_object hnodup h

theorem codec_keeps {r : Record α α} (hnodup : r.names.Nodup) {a : α} (h : r.Restores a a) :
    (codec r).Keeps a :=
  ⟨codec_decode_encode hnodup h, nofun⟩

/-- A record of lossless members of different names is lossless. -/
theorem codec_lossless {r : Record α α} {get : α → α} [Lossless r get]
    (hnodup : r.names.Nodup) (hget : ∀ a, get a = a) : (codec r).Lossless :=
  ⟨fun a => codec_keeps hnodup (by simpa only [hget] using Lossless.restores (r := r) a)⟩

theorem positionalCodec_keeps {r : Record α α} (hnodup : r.names.Nodup) {a : α}
    (h : r.Restores a a) : (positionalCodec r).Keeps a :=
  ⟨decodeObject_object hnodup h, nofun⟩

end Record

end AgentOperator
