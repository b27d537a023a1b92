import AgentOperator.Proofs.Rewriting

/-!
AgentOperator.Proofs.Generations — webhook configurations in either API generation.

The generations are written by records of their own, which give an entry's members in
different orders and leave out different ones. In which order the members are given does not
matter (`Json.object_perm`), and nothing is left out by only one of them where an entry says
all that both write (`Webhook.Common`). What is written for one generation is then the other
one's object but for the API version (`generations_agree`).
-/

namespace AgentOperator

/-! ## The order of members -/

theorem Entries.find?_perm {V : Type u} {es fs : List (String × V)} (h : es.Perm fs)
    (hes : (es.map (·.1)).Nodup) (k : String) : find? k es = find? k fs := by
  have hfs : (fs.map (·.1)).Nodup := (h.map (·.1)).nodup_iff.1 hes
  refine Option.ext fun v => ?_
  rw [find?_eq_some_iff hes, find?_eq_some_iff hfs, h.mem_iff]

/-- Members may be given in any order, as long as no name is given twice. -/
theorem Json.object_perm {ms ns : List (String × Json)} (h : ms.Perm ns)
    (hms : (ms.map (·.1)).Nodup) : Json.object ms = Json.object ns := by
  have hns : (ns.map (·.1)).Nodup := (h.map (·.1)).nodup_iff.1 hms
  refine congrArg Json.obj (Entries.Sorted.ext (Entries.sorted_ofList ms)
    (Entries.sorted_ofList ns) fun k => ?_)
  rw [Entries.find?_ofList k hms, Entries.find?_ofList k hns, Entries.find?_perm h hms]

namespace Record

variable {σ α β : Type}

/-- Records that write the same members write the same object. -/
theorem encode_perm {r : Record α α} {q : Record β β} {get : α → α} [Lossless r get]
    (hnodup : r.names.Nodup) {a : α} {b : β} (h : (r.write a).Perm (q.write b)) :
    (positionalCodec r).encode a = (codec q).encode b :=
  Json.object_perm h (hnodup.sublist (Lossless.restores (r := r) a).keys)

/-! ### What is written -/

theorem write_seq (f : Record σ (α → β)) (r : Record σ α) (s : σ) :
    (f <*> r).write s = f.write s ++ r.write s := rfl

theorem write_map (f : α → β) (r : Record σ α) (s : σ) : (f <$> r).write s = r.write s := rfl

theorem write_pure (a : α) (s : σ) : (pure a : Record σ α).write s = [] := rfl

theorem write_positioned (r : Record σ α) (s : σ) : (positioned r).write s = r.write s := rfl

theorem write_required [Inhabited α] (name : String) (get : σ → α) (c : Codec α) (s : σ) :
    (required name get c).write s = [(name, c.encode (get s))] := rfl

theorem write_mandatory (name : String) (get : σ → α) (c : Codec α) (s : σ) :
    (mandatory name get c).write s = [(name, c.encode (get s))] := rfl

theorem write_defaulted (name : String) (get : σ → α) (c : Codec α) (value : α) (s : σ) :
    (defaulted name get c value).write s = [(name, c.encode (get s))] := rfl

theorem write_optional (name : String) (get : σ → Option α) (c : Codec α) (s : σ) :
    (optional name get c).write s = ((get s).map fun a => (name, c.encode a)).toList := by
  cases h : get s <;> simp [optional, h]

theorem write_unlessEmpty {name : String} {get : σ → List α} {c : Codec α} {s : σ}
    (h : get s ≠ []) : (unlessEmpty name get c).write s = [(name, c.list.encode (get s))] :=
  if_neg fun hempty => h (List.isEmpty_iff.1 hempty)

end Record

namespace Kube

/-! ## Entries -/

/-- An entry that says all that both generations write, and nothing that only one does. -/
structure Webhook.Common (kind : WebhookKind) (w : Webhook) : Prop where
  reviewVersions : w.admissionReviewVersions ≠ []
  rules : w.rules ≠ []
  sideEffects : w.sideEffects.isSome = true
  reinvocation : kind = .validating → w.reinvocationPolicy = none

theorem Webhook.Common.fits {kind : WebhookKind} {w : Webhook} (h : w.Common kind)
    (version : AdmissionVersion) : w.Fits kind version :=
  ⟨h.reinvocation, fun _ => h.sideEffects⟩

/-- An entry as a generation writes it. -/
def Webhook.encodeIn (kind : WebhookKind) (version : AdmissionVersion) (w : Webhook) : Json :=
  match version with
  | .v1 => (AdmissionV1.Webhook.codec kind).encode (.ofEntry w)
  | .v1beta1 => AdmissionV1Beta1.entryCodec.encode w

open Record in
/-- Both generations write an entry as the same object. -/
theorem Webhook.Common.encode_eq {kind : WebhookKind} {w : Webhook} (h : w.Common kind) :
    AdmissionV1Beta1.entryCodec.encode w = (AdmissionV1.Webhook.codec kind).encode (.ofEntry w) := by
  obtain ⟨effects, heffects⟩ := Option.isSome_iff_exists.1 h.sideEffects
  -- Each member is counted once on either side, in whatever order.
  refine encode_perm (by decide) (List.perm_iff_count.2 fun member => ?_)
  cases kind
  case validating =>
    simp only [write_seq, write_map, write_pure, write_positioned, write_required,
      write_mandatory, write_defaulted, write_optional, write_unlessEmpty h.reviewVersions,
      write_unlessEmpty h.rules, AdmissionV1.Webhook.ofEntry, heffects, h.reinvocation rfl,
      Option.getD_some, Option.map_some, Option.map_none, Option.toList_some, Option.toList_none,
      List.count_append, List.count_nil]
    omega
  case mutating =>
    simp only [write_seq, write_map, write_positioned, write_required,
      write_mandatory, write_defaulted, write_optional, write_unlessEmpty h.reviewVersions,
      write_unlessEmpty h.rules, AdmissionV1.Webhook.ofEntry, heffects,
      Option.getD_some, Option.map_some, Option.map_none, Option.toList_some, Option.toList_none,
      List.count_append, List.count_nil]
    omega

theorem Webhook.Common.encodeIn_eq {kind : WebhookKind} {w : Webhook} (h : w.Common kind)
    (version version' : AdmissionVersion) :
    w.encodeIn kind version = w.encodeIn kind version' := by
  have hboth : ∀ v, w.encodeIn kind v = w.encodeIn kind .v1beta1
    | .v1 => h.encode_eq.symm
    | .v1beta1 => rfl
  rw [hboth version, hboth version']

/-! ## Configurations -/

/-- The same configuration in another generation. -/
def WebhookConfiguration.inVersion (c : WebhookConfiguration) (version : AdmissionVersion) :
    WebhookConfiguration := { c with version }

/-- The members of a configuration, in their order. -/
theorem WebhookConfiguration.encode_inVersion (kind : WebhookKind) (c : WebhookConfiguration)
    (version : AdmissionVersion) :
    (c.inVersion version).encode kind = .obj
      [("apiVersion", .str version.apiVersion), ("kind", .str kind.name),
        ("metadata", ObjectMeta.codec.encode c.metadata),
        ("webhooks", .arr (c.webhooks.map (Webhook.encodeIn kind version)))] := by
  have hsorted : ∀ i j k l : Json, Entries.Sorted
      [("apiVersion", i), ("kind", j), ("metadata", k), ("webhooks", l)] := fun i j k l =>
    List.pairwise_map.1 (show ["apiVersion", "kind", "metadata", "webhooks"].Pairwise (· < ·)
      by decide)
  cases version
  case v1 =>
    show Json.object [("apiVersion", .str _), ("kind", .str _), ("metadata", _),
      ("webhooks", .arr ((c.webhooks.map AdmissionV1.Webhook.ofEntry).map _))] = _
    rw [Json.object, Entries.ofList_of_sorted (hsorted ..), List.map_map]
    rfl
  case v1beta1 =>
    show Json.object [("apiVersion", .str _), ("kind", .str _), ("metadata", _),
      ("webhooks", .arr (c.webhooks.map _))] = _
    rw [Json.object, Entries.ofList_of_sorted (hsorted ..)]
    rfl

/-- Entries that both generations have a place for. -/
def WebhookConfiguration.Common (kind : WebhookKind) (c : WebhookConfiguration) : Prop :=
  ∀ w ∈ c.webhooks, w.Common kind

section Common

variable {kind : WebhookKind} {c : WebhookConfiguration}

theorem WebhookConfiguration.Common.map_encodeIn (h : c.Common kind)
    (version version' : AdmissionVersion) :
    c.webhooks.map (Webhook.encodeIn kind version)
      = c.webhooks.map (Webhook.encodeIn kind version') :=
  List.map_congr_left fun w hw => (h w hw).encodeIn_eq version version'

theorem WebhookConfiguration.Common.sameBeside (h : c.Common kind)
    (version version' : AdmissionVersion) :
    ((c.inVersion version).encode kind).SameBeside "apiVersion"
      ((c.inVersion version').encode kind) := by
  rw [encode_inVersion, encode_inVersion, h.map_encodeIn version version']
  refine ⟨_, _, rfl, rfl, fun name hname => ?_⟩
  simp only [Entries.find?, if_neg hname.symm]

/-- With the API version adjusted it is the other generation's object. -/
theorem WebhookConfiguration.Common.setMember_apiVersion (h : c.Common kind)
    (version version' : AdmissionVersion) :
    ((c.inVersion version).encode kind).setMember "apiVersion" (.str version'.apiVersion)
      = (c.inVersion version').encode kind := by
  rw [encode_inVersion, encode_inVersion, h.map_encodeIn version version']
  simp [Json.setMember, Entries.insert]

end Common

/-- Metadata in which every timestamp is an instant, and not just numbers that name none. -/
structure ObjectMeta.Dated (m : ObjectMeta) : Prop where
  deletion : ∀ t, m.deletionTimestamp = some t → t.Known
  rest : Schema.FieldsDated metaFields m.rest.values

open Record in
theorem ObjectMeta.exists_decode_encode {m : ObjectMeta} (h : m.Dated) :
    ∃ m', ObjectMeta.codec.decode (ObjectMeta.codec.encode m) = .ok m' := by
  obtain ⟨rest, hrest⟩ : ∃ r, (Record.rest ObjectMeta.rest).Restores m r :=
    exists_rest_restores (by decide) (by decide) h.rest
  refine ⟨{ m with rest }, codec_decode_encode (by decide) ?_⟩
  show Record.Restores _ m (ObjectMeta.mk m.name m.generateName m.namespace m.uid
    m.resourceVersion m.generation m.labels m.annotations m.ownerReferences m.finalizers
    m.deletionTimestamp rest)
  refine seq_restores (seq_restores (Lossless.restores_of_eq rfl) ?_) hrest
  exact optional_restores fun t ht => Codec.timestamp_keeps (h.deletion t ht)

/-- **The generations agree.** A configuration of entries that both have a place for is written
as objects that differ in the API version only, and with that adjusted either object is read in
either generation as the same entries. -/
theorem generations_agree {kind : WebhookKind} {c : WebhookConfiguration} (h : c.Common kind) :
    ((c.inVersion .v1).encode kind).SameBeside "apiVersion" ((c.inVersion .v1beta1).encode kind) ∧
    (∀ version : AdmissionVersion,
      ((c.inVersion version).encode kind).get? "apiVersion" = some (.str version.apiVersion)) ∧
    (c.metadata.Dated → ∃ m, ∀ version version' : AdmissionVersion,
      Object.decodeWebhooks kind version'
        (((c.inVersion version).encode kind).setMember "apiVersion" (.str version'.apiVersion))
        = .ok { version := version', metadata := m, webhooks := c.webhooks }) := by
  refine ⟨h.sameBeside .v1 .v1beta1, fun version => ?_, fun hdated => ?_⟩
  · rw [WebhookConfiguration.encode_inVersion]
    rfl
  · obtain ⟨m, hm⟩ := ObjectMeta.exists_decode_encode hdated
    refine ⟨m, fun version version' => ?_⟩
    rw [h.setMember_apiVersion version version']
    exact Object.decodeWebhooks_encode_as (c := c.inVersion version') hm
      fun w hw => (h w hw).fits version'

/-- A configuration with one entry, which says what it has to and nothing about matching. -/
def smallWebhooks : WebhookConfiguration :=
  { metadata := { name := some "hook" }
    webhooks :=
      [{ name := "a.example", admissionReviewVersions := ["v1"], sideEffects := some "None"
         rules := [{ operations := some ["*"] }], failurePolicy := some "Ignore" }] }

theorem generations_agree_small :
    smallWebhooks.Common .validating ∧ smallWebhooks.metadata.Dated ∧
    ∃ m, Object.decodeWebhooks .validating .v1beta1
        (((smallWebhooks.inVersion .v1).encode .validating).setMember "apiVersion"
          (.str "admissionregistration.k8s.io/v1beta1"))
      = .ok { version := .v1beta1, metadata := m, webhooks := smallWebhooks.webhooks } := by
  have hcommon : smallWebhooks.Common .validating := by
    intro w hw
    obtain rfl := List.mem_singleton.1 hw
    exact ⟨by decide, by decide, rfl, fun _ => rfl⟩
  have hdated : smallWebhooks.metadata.Dated := ⟨nofun, nofun, nofun, nofun, nofun, trivial⟩
  obtain ⟨m, hm⟩ := (generations_agree hcommon).2.2 hdated
  exact ⟨hcommon, hdated, m, hm .v1 .v1beta1⟩

end Kube

end AgentOperator
