import AgentOperator.Api.Answer
import AgentOperator.Proofs.Wire

/-!
AgentOperator.Proofs.Untyped — objects read without regard to their kind.

The store reads what the server answers as an object of which only the metadata is
understood, and then as one of the kind that was asked for. The first reading is
nothing to an object that says what it is and whose metadata is read back as it was
written (`anyObject_value`): every object that survives the wire is such a one, so it
survives both readings (`anyObject_encode`).
-/

namespace AgentOperator

/-! ## Members found among others -/

namespace Entries

variable {V : Type} {es fs : List (String × V)} {k : String}

theorem find?_filter (p : String → Bool) (k : String) (es : List (String × V)) :
    find? k (es.filter fun e => p e.1) = if p k then find? k es else none := by
  induction es with
  | nil => simp
  | cons e es ih =>
    rw [List.filter_cons]
    by_cases hk : e.1 = k
    · subst hk
      cases hp : p e.1
      · simpa [hp] using ih
      · simp [find?]
    · rw [find?, if_neg hk, ← ih]
      cases hp : p e.1
      · simp
      · simp [find?, hk]

/-- What is written later under other keys is not found. -/
theorem find?_ofList_append_of_notMem (h : ∀ f ∈ fs, f.1 ≠ k) :
    find? k (ofList (es ++ fs)) = find? k (ofList es) := by
  have hafter (acc : List (String × V)) :
      find? k (fs.foldl (fun acc e => insert e.1 e.2 acc) acc) = find? k acc := by
    induction fs generalizing acc with
    | nil => rfl
    | cons f fs ih =>
      rw [List.foldl_cons, ih fun g hg => h g (.tail _ hg)]
      exact find?_insert_of_ne _ _ (h f (.head _))
  rw [ofList, List.foldl_append]
  exact hafter _

end Entries

namespace Api

open Kube (ObjectMeta)

/-! ## The reading -/

section Reading

variable {ms : List (String × Json)} {apiVersion kind : String} {i : Json} {m : ObjectMeta}

/-- An object as a text has the members that it has. -/
theorem members?_value (ms : List (String × Json)) :
    (Json.Source.value (.obj ms)).members? = some (ms.map fun e => (e.1, .value e.2)) := rfl

theorem filter_members (p : String → Bool) (ms : List (String × Json)) :
    (ms.map fun e => (e.1, Json.Source.value e.2)).filter (fun e => p e.1)
      = (ms.filter fun e => p e.1).map fun e => (e.1, .value e.2) :=
  List.filter_map

theorem metadataAmong_value (hsorted : Entries.Sorted ms)
    (hmember : Entries.find? "metadata" ms = some i) :
    metadataAmong (ms.map fun e => (e.1, .value e.2)) = ObjectMeta.codec.decode i := by
  have honly : ms.filter (fun e => decide (e.1 = "metadata")) = [("metadata", i)] := by
    refine Entries.Sorted.ext (hsorted.filter _) (List.pairwise_singleton _ _) fun k => ?_
    rw [Entries.find?_filter (fun name => decide (name = "metadata"))]
    by_cases hk : k = "metadata"
    · subst hk
      simp [hmember, Entries.find?]
    · simp [hk, Entries.find?, Ne.symm hk]
  unfold metadataAmong
  rw [filter_members fun name => decide (name = "metadata"), honly]
  exact Codec.read_value _ _

theorem othersAmong_value (ms : List (String × Json)) :
    othersAmong (ms.map fun e => (e.1, .value e.2))
      = .ok (ms.filter fun e => decide (e.1 ≠ "metadata")) := by
  unfold othersAmong
  rw [filter_members fun name => decide (name ≠ "metadata"), Except.mapM_eq_ok_iff,
    List.forall₂_map_left_iff, List.forall₂_same]
  intro e he
  simp

/-- An object that says what it is, once and in words, keeps saying so. -/
theorem settleTypes_of_typed (hsorted : Entries.Sorted ms)
    (hversion : Entries.find? "apiVersion" ms = some (.str apiVersion))
    (hkind : Entries.find? "kind" ms = some (.str kind)) :
    settleTypes ms = ms := by
  have hboth : ms.filter (fun e => decide (e.1 ∈ typeMembers))
      = [("apiVersion", .str apiVersion), ("kind", .str kind)] := by
    have hpair : Entries.Sorted [("apiVersion", Json.str apiVersion), ("kind", .str kind)] :=
      List.pairwise_pair.2 (show "apiVersion" < "kind" by decide)
    refine Entries.Sorted.ext (hsorted.filter _) hpair fun k => ?_
    rw [Entries.find?_filter (fun name => decide (name ∈ typeMembers))]
    by_cases ha : k = "apiVersion"
    · subst ha
      simp [hversion, Entries.find?, typeMembers]
    by_cases hk : k = "kind"
    · subst hk
      simp [hkind, Entries.find?, typeMembers]
    · simp [typeMembers, ha, hk, Entries.find?, Ne.symm ha, Ne.symm hk]
  refine if_pos ?_
  unfold saysType
  rw [hboth]
  rfl

/-- **A reading without regard to the kind changes nothing** in an object that says
what it is and whose metadata is read back as it was written. -/
theorem anyObject_value (hsorted : Entries.Sorted ms)
    (hversion : Entries.find? "apiVersion" ms = some (.str apiVersion))
    (hkind : Entries.find? "kind" ms = some (.str kind))
    (hmember : Entries.find? "metadata" ms = some (ObjectMeta.codec.encode m))
    (hmeta : ObjectMeta.codec.decode (ObjectMeta.codec.encode m) = .ok m) :
    anyObject (.value (.obj ms)) = .ok (.obj ms) := by
  have hothers : Entries.Sorted (ms.filter fun e => decide (e.1 ≠ "metadata")) :=
    hsorted.filter _
  have hfound (k : String) (hk : k ≠ "metadata") :
      Entries.find? k (ms.filter fun e => decide (e.1 ≠ "metadata")) = Entries.find? k ms := by
    rw [Entries.find?_filter fun name => decide (name ≠ "metadata"), if_pos (decide_eq_true hk)]
  have hsettled : settleTypes (ms.filter fun e => decide (e.1 ≠ "metadata"))
      = ms.filter fun e => decide (e.1 ≠ "metadata") :=
    settleTypes_of_typed hothers ((hfound _ (by decide)).trans hversion)
      ((hfound _ (by decide)).trans hkind)
  have hrestored : Entries.insert "metadata" (ObjectMeta.codec.encode m)
      (ms.filter fun e => decide (e.1 ≠ "metadata")) = ms := by
    refine hothers.insert.ext hsorted fun k => ?_
    rw [Entries.find?_insert]
    split
    · rename_i heq
      rw [← heq, hmember]
    · rename_i hne
      exact hfound k (Ne.symm hne)
  unfold anyObject
  rw [members?_value]
  dsimp only
  rw [metadataAmong_value hsorted hmember, hmeta, othersAmong_value]
  show Except.ok ((Json.object (settleTypes _)).setMember "metadata" _) = _
  rw [hsettled, Json.object, Entries.ofList_of_sorted hothers, Json.setMember, hrestored]

end Reading

end Api

/-! ## Generations -/

namespace Kube

theorem SchedulingVersion.apiVersion_injective : Function.Injective apiVersion := by
  intro v w h
  revert h
  cases v <;> cases w <;> decide

theorem AdmissionVersion.apiVersion_injective : Function.Injective apiVersion := by
  intro v w h
  revert h
  cases v <;> cases w <;> decide

/-- Every generation is that of some kubelet. -/
theorem SchedulingVersion.exists_kubelet (v : SchedulingVersion) :
    ∃ kubelet, v = ofKubelet kubelet := by
  cases v with
  | v1 => exact ⟨"v1.14.0", by decide⟩
  | v1beta1 => exact ⟨"v1.11.0", by decide⟩
  | v1alpha1 => exact ⟨"v1.10.0", by decide⟩

theorem AdmissionVersion.exists_kubelet (v : AdmissionVersion) :
    ∃ kubelet, v = ofKubelet kubelet := by
  cases v with
  | v1 => exact ⟨"v1.16.0", by decide⟩
  | v1beta1 => exact ⟨"v1.15.0", by decide⟩

/-! ## Objects -/

namespace Object

/-- The members that every object is written with. -/
def commonMembers : List String := ["apiVersion", "kind", "metadata"]

/-- Members beside those that every object is written with. -/
def Others (es : List (String × Json)) : Prop := ∀ e ∈ es, e.1 ∉ commonMembers

theorem others_nil : Others [] := nofun

theorem Others.append {es fs : List (String × Json)} (he : Others es) (hf : Others fs) :
    Others (es ++ fs) := by
  intro e hmem
  exact (List.mem_append.1 hmem).elim (he e) (hf e)

theorem others_single {name : String} {j : Json} (h : name ∉ commonMembers) :
    Others [(name, j)] := by
  intro e he
  rwa [List.mem_singleton.1 he]

theorem others_optional {σ α : Type} {name : String} {get : σ → Option α} {c : Codec α} {s : σ}
    (h : name ∉ commonMembers) : Others ((Record.optional name get c).write s) := by
  simp only [Record.optional]
  split
  · exact others_single h
  · exact others_nil

/-- A webhook configuration is written as what it is, its metadata and its entries. -/
theorem encode_webhooks_eq (kind : WebhookKind) (c : WebhookConfiguration) :
    ∃ others : List (String × Json),
      c.encode kind = .object ([("apiVersion", .str c.version.apiVersion),
        ("kind", .str kind.name), ("metadata", ObjectMeta.codec.encode c.metadata)] ++ others) ∧
      Others others := by
  obtain ⟨version, metadata, webhooks⟩ := c
  cases version with
  | v1 => exact ⟨_, rfl, others_optional (by decide)⟩
  | v1beta1 => exact ⟨_, rfl, others_single (by decide)⟩

/-- Every object is written as what it is, its metadata and other members. -/
theorem encode_eq (o : Object) : ∃ others : List (String × Json),
    o.encode = .object ([("apiVersion", .str o.apiVersion), ("kind", .str o.kind.name),
      ("metadata", ObjectMeta.codec.encode o.metadata)] ++ others) ∧ Others others := by
  cases o with
  | deployment d =>
    exact ⟨_, rfl, (others_nil.append (others_optional (by decide))).append
      (others_optional (by decide))⟩
  | daemonSet d =>
    exact ⟨_, rfl, (others_nil.append (others_optional (by decide))).append
      (others_optional (by decide))⟩
  | service s =>
    exact ⟨_, rfl, (others_nil.append (others_optional (by decide))).append
      (others_optional (by decide))⟩
  | secret s =>
    exact ⟨_, rfl, (((others_nil.append (others_optional (by decide))).append
      (others_optional (by decide))).append (others_optional (by decide))).append
      (others_optional (by decide))⟩
  | configMap m =>
    exact ⟨_, rfl, ((others_nil.append (others_optional (by decide))).append
      (others_optional (by decide))).append (others_optional (by decide))⟩
  | priorityClass p =>
    exact ⟨_, rfl, (((others_nil.append (others_optional (by decide))).append
      (others_optional (by decide))).append (others_optional (by decide))).append
      (others_single (by decide))⟩
  | validatingWebhookConfiguration c => exact encode_webhooks_eq .validating c
  | mutatingWebhookConfiguration c => exact encode_webhooks_eq .mutating c

/-- An object survives being written as JSON and read again. -/
def SurvivesWire (o : Object) : Prop := o.decodeLike o.encode = .ok o

/-- Such an object is known to some kubelet. -/
theorem SurvivesWire.known {o : Object} (h : o.SurvivesWire) : ∃ kubelet, o.Known kubelet := by
  obtain ⟨hreadable, hfit⟩ := (decodeLike_encode_iff_readable o).1 h
  cases o with
  | priorityClass p =>
    obtain ⟨kubelet, hversion⟩ := p.version.exists_kubelet
    exact ⟨kubelet, hversion, hreadable⟩
  | validatingWebhookConfiguration c =>
    obtain ⟨kubelet, hversion⟩ := c.version.exists_kubelet
    exact ⟨kubelet, hversion, hreadable, hfit⟩
  | mutatingWebhookConfiguration c =>
    obtain ⟨kubelet, hversion⟩ := c.version.exists_kubelet
    exact ⟨kubelet, hversion, hreadable, hfit⟩
  | _ => exact ⟨"", hreadable⟩

theorem SurvivesWire.ownKey_encode {o : Object} (h : o.SurvivesWire) : ownKey o.encode = o.key := by
  obtain ⟨kubelet, hknown⟩ := h.known
  exact Object.ownKey_encode hknown

theorem SurvivesWire.metadata {o : Object} (h : o.SurvivesWire) :
    ObjectMeta.codec.decode (ObjectMeta.codec.encode o.metadata) = .ok o.metadata := by
  rw [ObjectMeta.decode_encode_iff]
  have hreadable := ((decodeLike_encode_iff_readable o).1 h).1
  cases o with
  | deployment d => exact hreadable.metadata
  | daemonSet d => exact hreadable.metadata
  | service s => exact hreadable.metadata
  | _ => exact hreadable

/-- **An object that survives the wire survives being read without regard to its
kind.** -/
theorem anyObject_encode {o : Object} (h : o.SurvivesWire) :
    Api.anyObject (.value o.encode) = .ok o.encode := by
  obtain ⟨others, hencode, hothers⟩ := o.encode_eq
  let common : List (String × Json) := [("apiVersion", .str o.apiVersion),
    ("kind", .str o.kind.name), ("metadata", ObjectMeta.codec.encode o.metadata)]
  have hnodup : (common.map (·.1)).Nodup := show commonMembers.Nodup by decide
  have hfound (k : String) (hk : k ∈ commonMembers) :
      Entries.find? k (Entries.ofList (common ++ others)) = Entries.find? k common := by
    rw [Entries.find?_ofList_append_of_notMem fun e he heq => hothers e he (heq ▸ hk),
      Entries.find?_ofList k hnodup]
  rw [hencode, Json.object]
  exact Api.anyObject_value (Entries.sorted_ofList _) (hfound "apiVersion" (by decide))
    (hfound "kind" (by decide)) (hfound "metadata" (by decide)) h.metadata

/-- How a value is read as an object depends on the kind and the API generation alone. -/
theorem decodeLike_congr {template o : Object} (hkind : template.kind = o.kind)
    (hversion : template.apiVersion = o.apiVersion) (j : Json) :
    template.decodeLike j = o.decodeLike j := by
  cases template <;> cases o <;> cases hkind
  case priorityClass t p =>
    obtain heq : t.version = p.version := SchedulingVersion.apiVersion_injective hversion
    simp only [decodeLike, heq]
  case validatingWebhookConfiguration t c =>
    obtain heq : t.version = c.version := AdmissionVersion.apiVersion_injective hversion
    simp only [decodeLike, heq]
  case mutatingWebhookConfiguration t c =>
    obtain heq : t.version = c.version := AdmissionVersion.apiVersion_injective hversion
    simp only [decodeLike, heq]
  all_goals rfl

end Object

end Kube

end AgentOperator
