import AgentOperator.Proofs.Objects

/-!
AgentOperator.Proofs.Readings — what was read can be written and read again.

A stored value of any content either cannot be read, or is read as a known
object (`Object.known_of_decodeLike`). So what was read, and is written back with
changes that keep it known, is read as it was written. Its key is the one that
the stored value gives itself (`ownKey`), whatever API generation it is read in
(`Object.key_of_decodeLike`), and so is its version (`Object.version_of_decodeLike`).
-/

namespace AgentOperator

/-! ## Codecs -/

namespace Codec

variable {α : Type}

/-- Whatever is read has this property, with respect to what it is read from. -/
def Yields (c : Codec α) (P : Json → α → Prop) : Prop := ∀ j a, c.decode j = .ok a → P j a

theorem list_yields {c : Codec α} {P : α → Prop} (hc : c.Yields fun _ => P) :
    c.list.Yields fun _ as => ∀ a ∈ as, P a := by
  intro j as h a ha
  cases j with
  | arr js =>
    obtain ⟨i, -, hi⟩ := mem_mapM h ha
    exact hc i a hi
  | _ => cases h

theorem timestamp_yields : timestamp.Yields fun _ => Timestamp.Known :=
  fun _ _ => known_of_decode_timestamp

end Codec

theorem Carried.codec_yields {s : Schema} :
    (Carried.codec (s := s)).Yields fun _ v => s.Sound v.value := by
  intro j v h
  obtain ⟨value, hvalue, rfl⟩ := Except.map_eq_ok.1 h
  exact Schema.sound_of_decode s j value hvalue

/-! ## Records -/

namespace Record

variable {σ α β : Type} {name : String} {look : String → Option Json}

/-- Whatever is read from these members has this property. -/
def Yields (r : Record σ α) (look : String → Option Json) (P : α → Prop) : Prop :=
  ∀ a, r.read look = .ok a → P a

theorem map_yields {r : Record σ α} {f : α → β} {P : β → Prop}
    (h : r.Yields look fun a => P (f a)) : (f <$> r).Yields look P := by
  intro b hb
  obtain ⟨a, ha, rfl⟩ := Except.map_eq_ok.1 hb
  exact h a ha

/-- One member after the other, in the order in which they are read. -/
theorem seq_yields {f : Record σ (α → β)} {r : Record σ α} {P : β → Prop}
    (h : f.Yields look fun g => r.Yields look fun a => P (g a)) : (f <*> r).Yields look P := by
  intro b hb
  obtain ⟨g, a, hg, ha, rfl⟩ := seq_read_eq_ok.1 hb
  exact h g hg a ha

theorem after_yields {r : Record σ Unit} {k : Record σ α} {P : α → Prop} (h : k.Yields look P) :
    (after r k).Yields look P :=
  fun a ha => h a (after_read ha)

theorem codec_yields {r : Record α α} {P : Json → α → Prop}
    (h : ∀ ms, r.Yields (fun name => Entries.find? name ms) (P (.obj ms))) : r.codec.Yields P := by
  intro j a ha
  cases j with
  | obj ms => exact h ms a ha
  | _ => cases ha

/-- A text is read as it stands. -/
theorem optional_string_read {get : σ → Option String} {v : Option String}
    (h : (optional name get Codec.string).read look = .ok v) :
    v = (look name).bind Json.asString? := by
  simp only [optional] at h
  split at h
  · rename_i hnone
    cases h
    rw [hnone]
    rfl
  · rename_i hnull
    cases h
    rw [hnull]
    rfl
  · rename_i j _ hj
    obtain ⟨s, hs, rfl⟩ := Except.map_eq_ok.1 h
    rw [hj]
    cases j <;> cases hs
    rfl

theorem optional_yields {get : σ → Option α} {c : Codec α} {P : α → Prop}
    (hc : c.Yields fun _ => P) :
    (optional name get c).Yields look fun v => ∀ a, v = some a → P a := by
  rintro v h a rfl
  obtain ⟨j, hj⟩ := optional_read h
  exact hc j a hj

/-- A required member was read, or was not there and is its type's default. -/
theorem required_read [Inhabited α] {get : σ → α} {c : Codec α} {a : α}
    (h : (required name get c).read look = .ok a) :
    (∃ j, look name = some j ∧ c.decode j = .ok a) ∨
      (look name = none ∨ look name = some .null) ∧ a = default := by
  simp only [required] at h
  split at h
  · cases h
    exact .inr ⟨.inl ‹_›, rfl⟩
  · cases h
    exact .inr ⟨.inr ‹_›, rfl⟩
  · rename_i j _ hj
    refine .inl ⟨j, hj, ?_⟩
    unfold decodeMember at h
    split at h
    · cases h
      assumption
    · cases h

theorem required_yields [Inhabited α] {get : σ → α} {c : Codec α} {P : α → Prop}
    (hc : c.Yields fun _ => P) (hdefault : P default) : (required name get c).Yields look P := by
  intro a h
  rcases required_read h with ⟨j, -, hj⟩ | ⟨-, rfl⟩
  · exact hc j a hj
  · exact hdefault

theorem rest_yields {fs : Fields} {get : σ → Rest fs} :
    (rest get).Yields look fun r => Schema.FieldsSound fs r.values := by
  intro r h
  obtain ⟨values, hvalues, rfl⟩ := Except.map_eq_ok.1 h
  exact Schema.fieldsSound_of_decode _ _ values hvalues

/-! ### What was written -/

/-- Whatever is read back from what is written for `s` has this property. -/
structure Recalls (r : Record σ α) (s : σ) (P : α → Prop) : Prop where
  keys : ((r.write s).map (·.1)).Sublist r.names
  read : r.names.Nodup → ∀ look : String → Option Json,
    (∀ name ∈ r.names, look name = Entries.find? name (r.write s)) → r.Yields look P

theorem Recalls.mono {r : Record σ α} {s : σ} {P Q : α → Prop} (h : r.Recalls s P)
    (himp : ∀ a, P a → Q a) : r.Recalls s Q :=
  ⟨h.keys, fun hnodup look hlook a ha => himp a (h.read hnodup look hlook a ha)⟩

theorem Restores.recalls {r : Record σ α} {s : σ} {a : α} (h : r.Restores s a) :
    r.Recalls s fun b => b = a := by
  refine ⟨h.keys, fun hnodup look hlook b hb => ?_⟩
  rw [h.read hnodup look hlook] at hb
  cases hb
  rfl

theorem Lossless.recalls {r : Record σ α} {get : σ → α} [Lossless r get] (s : σ) :
    r.Recalls s fun a => a = get s :=
  (Lossless.restores s).recalls

theorem decodeMember_eq_ok {c : Codec α} {j : Json} {a : α} :
    decodeMember name c j = .ok a ↔ c.decode j = .ok a := by
  unfold decodeMember
  cases c.decode j <;> simp

/-- A member that is always written, whatever is read where it is missing. -/
theorem recalls_of_member {r : Record σ α} {c : Codec α} {s : σ} {a : α} {P : α → Prop}
    (hnames : r.names = [name]) (hwrite : r.write s = [(name, c.encode a)])
    (hread : ∀ look j, look name = some j → r.read look = decodeMember name c j)
    (h : ∀ b, c.decode (c.encode a) = .ok b → P b) : r.Recalls s P := by
  constructor
  · rw [hnames, hwrite]
    exact List.Sublist.refl _
  · intro _ look hlook b hb
    have hsome : look name = some (c.encode a) := by
      rw [hlook name (hnames ▸ List.mem_singleton.2 rfl), hwrite, find?_single]
    rw [hread look _ hsome, decodeMember_eq_ok] at hb
    exact h b hb

theorem mandatory_recalls {get : σ → α} {c : Codec α} {s : σ} {P : α → Prop}
    (h : ∀ a, c.decode (c.encode (get s)) = .ok a → P a) :
    (mandatory name get c).Recalls s P :=
  recalls_of_member rfl rfl (fun look j hj => by simp only [mandatory, hj]) h

theorem defaulted_recalls {get : σ → α} {c : Codec α} {value : α} {s : σ} {P : α → Prop}
    (h : ∀ a, c.decode (c.encode (get s)) = .ok a → P a) :
    (defaulted name get c value).Recalls s P :=
  recalls_of_member rfl rfl (fun look j hj => by simp only [defaulted, hj]) h

theorem map_recalls {r : Record σ α} {f : α → β} {s : σ} {P : β → Prop}
    (h : r.Recalls s fun a => P (f a)) : (f <$> r).Recalls s P :=
  ⟨h.keys, fun hnodup look hlook => map_yields (h.read hnodup look hlook)⟩

/-- Members of different names do not get into each other's way. -/
theorem seq_recalls {f : Record σ (α → β)} {r : Record σ α} {s : σ} {P : α → Prop}
    {Q : β → Prop} (hr : r.Recalls s P) (hf : f.Recalls s fun g => ∀ a, P a → Q (g a)) :
    (f <*> r).Recalls s Q := by
  have hnames : (f <*> r).names = f.names ++ r.names := List.map_append
  have hwrite : (f <*> r).write s = f.write s ++ r.write s := rfl
  constructor
  · rw [hnames, hwrite, List.map_append]
    exact hf.keys.append hr.keys
  · intro hnodup look hlook
    rw [hnames] at hnodup hlook
    rw [hwrite] at hlook
    obtain ⟨hfnodup, hrnodup, -⟩ := List.nodup_append.1 hnodup
    refine seq_yields fun g hg a ha => hf.read hfnodup look ?_ g hg a ?_
    · intro name hname
      rw [hlook name (List.mem_append_left _ hname), find?_append_left hnodup hr.keys hname]
    · refine hr.read hrnodup look (fun name hname => ?_) a ha
      rw [hlook name (List.mem_append_right _ hname), find?_append_right hnodup hf.keys hname]

/-- What a whole object is read back as. -/
theorem decodeObject_recalls {r : Record σ α} {s : σ} {P : α → Prop} (hnodup : r.names.Nodup)
    (h : r.Recalls s P) {a : α} (ha : r.decodeObject (.object (r.write s)) = .ok a) : P a := by
  have hkeys : ((r.write s).map (·.1)).Nodup := hnodup.sublist h.keys
  refine h.read hnodup _ (fun name _ => ?_) a ha
  exact Entries.find?_ofList name hkeys

theorem codec_recalls {r : Record α α} {a b : α} {P : α → Prop}
    (hb : r.codec.decode (r.codec.encode a) = .ok b) (hnodup : r.names.Nodup)
    (h : r.Recalls a P) : P b :=
  decodeObject_recalls hnodup h hb

theorem positionalCodec_recalls {r : Record α α} {a b : α} {P : α → Prop}
    (hb : r.positionalCodec.decode (r.positionalCodec.encode a) = .ok b)
    (hnodup : r.names.Nodup) (h : r.Recalls a P) : P b :=
  decodeObject_recalls hnodup h hb

end Record

namespace Kube

open Record (map_yields seq_yields after_yields codec_yields optional_yields required_yields
  rest_yields optional_string_read)

/-! ## Metadata -/

/-- Metadata has the name, the namespace and the version that are written, and can
be written again. -/
structure ObjectMeta.ReadFrom (j : Json) (m : ObjectMeta) : Prop where
  read : ObjectMeta.codec.decode j = .ok m
  known : m.Known
  name : m.name = (j.get? "name").bind Json.asString?
  «namespace» : m.namespace = (j.get? "namespace").bind Json.asString?
  version : m.resourceVersion = (j.get? "resourceVersion").bind Json.asString?

theorem ObjectMeta.codec_yields : ObjectMeta.codec.Yields ObjectMeta.ReadFrom := by
  suffices hparts : ObjectMeta.codec.Yields fun j m => m.Known ∧
      m.name = (j.get? "name").bind Json.asString? ∧
      m.namespace = (j.get? "namespace").bind Json.asString? ∧
      m.resourceVersion = (j.get? "resourceVersion").bind Json.asString? by
    intro j m hread
    obtain ⟨hknown, hname, hspace, hversion⟩ := hparts j m hread
    exact ⟨hread, hknown, hname, hspace, hversion⟩
  refine Record.codec_yields fun ms => ?_
  iterate 11 refine seq_yields ?_
  refine map_yields ?_
  rintro name hname generateName - space hspace uid - version hversion generation - labels -
    annotations - owners - finalizers - deletion hdeletion rest hrest
  refine ⟨⟨?_, ?_⟩, ?_, ?_, ?_⟩
  · exact optional_yields Codec.timestamp_yields deletion hdeletion
  · exact rest_yields rest hrest
  · exact optional_string_read hname
  · exact optional_string_read hspace
  · exact optional_string_read hversion

/-- The key that a value gives itself. -/
def ownKey (j : Json) : ObjectKey :=
  ⟨((j.get? "metadata").bind (·.get? "namespace")).bind Json.asString?,
    (((j.get? "metadata").bind (·.get? "name")).bind Json.asString?).getD ""⟩

/-- The version that a value gives itself. -/
def ownVersion (j : Json) : Option String :=
  ((j.get? "metadata").bind (·.get? "resourceVersion")).bind Json.asString?

/-- What metadata is read from a member, or from its absence. -/
structure ObjectMeta.ReadIn (j : Json) (m : ObjectMeta) : Prop where
  member : ∀ i, j.get? "metadata" = some i → i ≠ .null → ObjectMeta.codec.decode i = .ok m
  known : m.Known
  key : (⟨m.namespace, m.name.getD ""⟩ : ObjectKey) = ownKey j
  version : m.resourceVersion = ownVersion j

/-- Where no metadata is written, or null, the default is read. -/
theorem ObjectMeta.readIn_default {j : Json}
    (h : j.get? "metadata" = none ∨ j.get? "metadata" = some .null) : ReadIn j {} := by
  have hmember : ∀ i, j.get? "metadata" = some i → i ≠ .null →
      ObjectMeta.codec.decode i = .ok {} := by
    intro i hi hnull
    rcases h with h | h <;> rw [h] at hi <;> cases hi
    exact absurd rfl hnull
  rcases h with h | h <;>
    exact ⟨hmember, ObjectMeta.known_default, by rw [ownKey, h]; rfl, by rw [ownVersion, h]; rfl⟩

theorem ObjectMeta.ReadFrom.readIn {i j : Json} {m : ObjectMeta} (h : m.ReadFrom i)
    (hi : j.get? "metadata" = some i) : m.ReadIn j := by
  refine ⟨?_, h.known, ?_, ?_⟩
  · intro i' hi' _
    cases hi.symm.trans hi'
    exact h.read
  · rw [ownKey, hi, h.name, h.namespace]
    rfl
  · rw [ownVersion, hi, h.version]
    rfl

theorem ObjectMeta.required_yields {σ : Type} {get : σ → ObjectMeta} {ms : List (String × Json)} :
    (Record.required "metadata" get ObjectMeta.codec).Yields (fun name => Entries.find? name ms)
      fun m => m.ReadIn (.obj ms) := by
  intro m h
  rcases Record.required_read h with ⟨i, hi, hm⟩ | ⟨hmissing, rfl⟩
  · exact (ObjectMeta.codec_yields i m hm).readIn hi
  · exact ObjectMeta.readIn_default hmissing

/-! ## Pods -/

theorem Volume.codec_yields : Volume.codec.Yields fun _ => Volume.Known := by
  refine Record.codec_yields fun ms => ?_
  iterate 4 refine seq_yields ?_
  refine map_yields ?_
  rintro name - configMap - hostPath - secret - rest hrest
  exact rest_yields rest hrest

theorem PodSpec.codec_yields : PodSpec.codec.Yields fun _ => PodSpec.Known := by
  refine Record.codec_yields fun ms => ?_
  iterate 11 refine seq_yields ?_
  refine map_yields ?_
  rintro affinity - containers - dnsPolicy - hostNetwork - hostPID - pullSecrets - selector -
    priority - account - tolerations - volumes hvolumes rest -
  exact optional_yields (Codec.list_yields Volume.codec_yields) volumes hvolumes

theorem PodTemplateSpec.codec_yields :
    PodTemplateSpec.codec.Yields fun _ => PodTemplateSpec.Known := by
  refine Record.codec_yields fun ms => seq_yields (map_yields ?_)
  intro metadata hmetadata spec hspec
  refine ⟨?_, optional_yields PodSpec.codec_yields spec hspec⟩
  refine optional_yields (P := ObjectMeta.Known) (fun j m hm => ?_) metadata hmetadata
  exact (ObjectMeta.codec_yields j m hm).known

/-! ## Workloads -/

theorem DeploymentSpec.codec_yields :
    DeploymentSpec.codec.Yields fun _ d => d.template.Known := by
  refine Record.codec_yields fun ms => ?_
  iterate 3 refine seq_yields ?_
  refine map_yields ?_
  rintro replicas - selector - template htemplate rest -
  exact required_yields PodTemplateSpec.codec_yields PodTemplateSpec.known_default template htemplate

theorem DeploymentStatus.codec_yields :
    DeploymentStatus.codec.Yields fun _ => DeploymentStatus.Known :=
  fun _ _ => DeploymentStatus.known_of_decode

theorem Deployment.codec_yields :
    Deployment.codec.Yields fun j d => d.Known ∧ d.metadata.ReadIn j := by
  refine Record.codec_yields fun ms => after_yields (after_yields ?_)
  refine seq_yields (seq_yields (map_yields ?_))
  intro metadata hmetadata spec hspec status hstatus
  have hmeta := ObjectMeta.required_yields metadata hmetadata
  refine ⟨⟨hmeta.known, ?_, ?_⟩, hmeta⟩
  · exact optional_yields DeploymentSpec.codec_yields spec hspec
  · exact optional_yields DeploymentStatus.codec_yields status hstatus

theorem DaemonSetSpec.codec_yields :
    DaemonSetSpec.codec.Yields fun _ d => d.template.Known := by
  refine Record.codec_yields fun ms => ?_
  iterate 2 refine seq_yields ?_
  refine map_yields ?_
  rintro selector - template htemplate rest -
  exact required_yields PodTemplateSpec.codec_yields PodTemplateSpec.known_default template htemplate

theorem DaemonSet.codec_yields :
    DaemonSet.codec.Yields fun j d => d.Known ∧ d.metadata.ReadIn j := by
  refine Record.codec_yields fun ms => after_yields (after_yields ?_)
  refine seq_yields (seq_yields (map_yields ?_))
  intro metadata hmetadata spec hspec status hstatus
  have hmeta := ObjectMeta.required_yields metadata hmetadata
  refine ⟨⟨hmeta.known, ?_, ?_⟩, hmeta⟩
  · exact optional_yields DaemonSetSpec.codec_yields spec hspec
  · exact optional_yields Carried.codec_yields status hstatus

/-! ## Services, config maps, secrets and priority classes -/

theorem Service.codec_yields :
    Service.codec.Yields fun j s => s.Known ∧ s.metadata.ReadIn j := by
  refine Record.codec_yields fun ms => after_yields (after_yields ?_)
  refine seq_yields (seq_yields (map_yields ?_))
  rintro metadata hmetadata spec - status hstatus
  have hmeta := ObjectMeta.required_yields metadata hmetadata
  exact ⟨⟨hmeta.known, optional_yields Carried.codec_yields status hstatus⟩, hmeta⟩

theorem ConfigMap.codec_yields : ConfigMap.codec.Yields fun j m => m.metadata.ReadIn j := by
  refine Record.codec_yields fun ms => after_yields (after_yields ?_)
  iterate 3 refine seq_yields ?_
  refine map_yields ?_
  rintro metadata hmetadata binaryData - data - constant -
  exact ObjectMeta.required_yields metadata hmetadata

theorem Secret.codec_yields : Secret.codec.Yields fun j s => s.metadata.ReadIn j := by
  refine Record.codec_yields fun ms => after_yields (after_yields ?_)
  iterate 4 refine seq_yields ?_
  refine map_yields ?_
  rintro metadata hmetadata data - constant - stringData - type -
  exact ObjectMeta.required_yields metadata hmetadata

theorem PriorityClassFields.record_yields {ms : List (String × Json)} :
    PriorityClassFields.record.Yields (fun name => Entries.find? name ms)
      fun p => p.metadata.ReadIn (.obj ms) := by
  iterate 4 refine seq_yields ?_
  refine map_yields ?_
  rintro metadata hmetadata description - globalDefault - preemption - value -
  exact ObjectMeta.required_yields metadata hmetadata

/-- A priority class is of the generation it is read in, and null has no key. -/
theorem PriorityClass.yields {version : SchedulingVersion} {j : Json} {p : PriorityClass}
    (h : decode version j = .ok p) : p.version = version ∧ p.metadata.ReadIn j := by
  obtain ⟨fields, hfields, h⟩ := Except.bind_eq_ok.1 h
  cases h
  refine ⟨rfl, ?_⟩
  have hread := Record.codec_yields
    (r := Record.after (.constant "kind" "PriorityClass") PriorityClassFields.record)
    (P := fun i q => q.metadata.ReadIn i) (fun ms => after_yields PriorityClassFields.record_yields)
    _ fields hfields
  by_cases hnull : j = .null
  · rw [if_pos hnull] at hread
    rw [hnull]
    exact ⟨nofun, hread.known, hread.key, hread.version⟩
  · rwa [if_neg hnull] at hread

/-! ## Webhook configurations -/

namespace AdmissionV1

theorem Webhook.codec_yields {kind : WebhookKind} :
    (Webhook.codec kind).Yields fun _ w => kind = .validating → w.reinvocationPolicy = none := by
  refine Record.codec_yields fun ms => ?_
  iterate 11 refine seq_yields ?_
  refine map_yields ?_
  rintro versions - clientConfig - failurePolicy - conditions - matchPolicy - name - namespaces -
    objects - reinvocation hreinvocation rules - sideEffects - timeout -
  rintro rfl
  cases hreinvocation
  rfl

theorem Configuration.codec_yields {kind : WebhookKind} :
    (Configuration.codec kind).Yields fun j c => c.toNeutral.Known kind ∧ c.metadata.ReadIn j := by
  refine Record.codec_yields fun ms => after_yields (after_yields ?_)
  refine seq_yields (map_yields ?_)
  intro metadata hmetadata webhooks hwebhooks
  have hmeta := ObjectMeta.required_yields metadata hmetadata
  refine ⟨⟨hmeta.known, ?_⟩, hmeta⟩
  intro entry hentry
  obtain ⟨w, hw, rfl⟩ := List.mem_map.1 hentry
  refine ⟨fun hkind => ?_, fun _ => rfl⟩
  cases webhooks with
  | none => cases hw
  | some ws =>
    have hread := optional_yields (Codec.list_yields Webhook.codec_yields) _ hwebhooks
    exact hread ws rfl w hw hkind

end AdmissionV1

namespace AdmissionV1Beta1

/-- A body is of its generation, and has the metadata that stands there, or the
default one. -/
theorem bodyRecord_read {look : String → Option Json} {c : WebhookConfiguration}
    (h : bodyRecord.read look = .ok c) :
    c.version = .v1beta1 ∧ ((∃ j, look "metadata" = some j ∧ c.metadata.ReadFrom j) ∨
      look "metadata" = none ∧ c.metadata = {}) := by
  obtain ⟨g, webhooks, hg, -, rfl⟩ := Record.seq_read_eq_ok.1 h
  obtain ⟨metadata, hmetadata, rfl⟩ := Except.map_eq_ok.1 hg
  refine ⟨rfl, ?_⟩
  simp only [Record.defaulted] at hmetadata
  split at hmetadata
  · cases hmetadata
    exact .inr ⟨‹_›, rfl⟩
  · rename_i j hj
    unfold Record.decodeMember at hmetadata
    split at hmetadata
    · cases hmetadata
      exact .inl ⟨j, hj, ObjectMeta.codec_yields j _ ‹_›⟩
    · cases hmetadata

theorem body_known {look : String → Option Json} {c : WebhookConfiguration}
    (h : bodyRecord.read look = .ok c) : c.metadata.Known := by
  rcases (bodyRecord_read h).2 with ⟨j, -, hmeta⟩ | ⟨-, hmeta⟩
  · exact hmeta.known
  · rw [hmeta]
    exact ObjectMeta.known_default

theorem body_readIn {ms : List (String × Json)} {c : WebhookConfiguration}
    (h : bodyRecord.read (fun name => Entries.find? name ms) = .ok c) :
    c.metadata.ReadIn (.obj ms) := by
  rcases (bodyRecord_read h).2 with ⟨j, hj, hmeta⟩ | ⟨hnone, hmeta⟩
  · exact hmeta.readIn hj
  · rw [hmeta]
    exact ObjectMeta.readIn_default (.inl hnone)

/-- An array of values gives itself no key, though a name may be read from it. -/
theorem decode_yields {kind : WebhookKind} {j : Json} {c : WebhookConfiguration}
    (h : decode kind j = .ok c) :
    c.version = .v1beta1 ∧ c.Known kind ∧ ((∀ js, j ≠ .arr js) → c.metadata.ReadIn j) := by
  obtain ⟨body, hbody, h⟩ := Except.bind_eq_ok.1 h
  have hread : body.version = .v1beta1 ∧ body.metadata.Known ∧
      ((∀ js, j ≠ .arr js) → body.metadata.ReadIn j) := by
    cases j with
    | obj ms => exact ⟨(bodyRecord_read hbody).1, body_known hbody, fun _ => body_readIn hbody⟩
    | arr js =>
      obtain ⟨ms, -, hbody⟩ := Except.bind_eq_ok.1 hbody
      exact ⟨(bodyRecord_read hbody).1, body_known hbody, fun harr => absurd rfl (harr js)⟩
    | _ => cases hbody
  obtain ⟨hversion, hknown, hkey⟩ := hread
  cases kind with
  | mutating =>
    cases h
    refine ⟨hversion, ⟨hknown, fun w hw => ⟨nofun, fun hv1 => ?_⟩⟩, hkey⟩
    cases hversion.symm.trans hv1
  | validating =>
    cases h
    refine ⟨hversion, ⟨hknown, fun w hw => ?_⟩, hkey⟩
    obtain ⟨entry, -, rfl⟩ := List.mem_map.1 hw
    refine ⟨fun _ => rfl, fun hv1 => ?_⟩
    cases hversion.symm.trans hv1

end AdmissionV1Beta1

theorem WebhookConfiguration.decode_yields {kind : WebhookKind} {version : AdmissionVersion}
    {j : Json} {c : WebhookConfiguration} (h : decode kind version j = .ok c) :
    c.version = version ∧ c.Known kind ∧ ((∀ js, j ≠ .arr js) → c.metadata.ReadIn j) := by
  cases version with
  | v1 =>
    obtain ⟨d, hd, rfl⟩ := Except.map_eq_ok.1 h
    obtain ⟨hknown, hmeta⟩ := AdmissionV1.Configuration.codec_yields j d hd
    exact ⟨rfl, hknown, fun _ => hmeta⟩
  | v1beta1 => exact AdmissionV1Beta1.decode_yields h

/-! ## Objects -/

namespace Object

theorem decode_of_decodeWebhooks {kind : WebhookKind} {version : AdmissionVersion} {j : Json}
    {c : WebhookConfiguration} (h : decodeWebhooks kind version j = .ok c) :
    WebhookConfiguration.decode kind version j = .ok c := by
  simp only [decodeWebhooks] at h
  split at h
  · split at h
    · exact orUnreadable_eq_ok.1 h
    · cases h
  · exact orUnreadable_eq_ok.1 h

/-- What was read is known, and its key is the one its value gives itself. -/
theorem decodeLike_yields {kubelet : String} {kind : Kind} {j : Json} {o : Object}
    (h : (empty kubelet kind).decodeLike j = .ok o) :
    o.Known kubelet ∧ ((∀ js, j ≠ .arr js) → o.metadata.ReadIn j) := by
  cases kind <;> obtain ⟨a, ha, rfl⟩ := Except.map_eq_ok.1 h
  case deployment =>
    obtain ⟨hknown, hmeta⟩ := Deployment.codec_yields j a (orUnreadable_eq_ok.1 ha)
    exact ⟨hknown, fun _ => hmeta⟩
  case daemonSet =>
    obtain ⟨hknown, hmeta⟩ := DaemonSet.codec_yields j a (orUnreadable_eq_ok.1 ha)
    exact ⟨hknown, fun _ => hmeta⟩
  case service =>
    obtain ⟨hknown, hmeta⟩ := Service.codec_yields j a (orUnreadable_eq_ok.1 ha)
    exact ⟨hknown, fun _ => hmeta⟩
  case secret =>
    have hmeta := Secret.codec_yields j a (orUnreadable_eq_ok.1 ha)
    exact ⟨hmeta.known, fun _ => hmeta⟩
  case configMap =>
    have hmeta := ConfigMap.codec_yields j a (orUnreadable_eq_ok.1 ha)
    exact ⟨hmeta.known, fun _ => hmeta⟩
  case priorityClass =>
    obtain ⟨hversion, hmeta⟩ := PriorityClass.yields (orUnreadable_eq_ok.1 ha)
    exact ⟨⟨hversion, hmeta.known⟩, fun _ => hmeta⟩
  case validatingWebhookConfiguration =>
    obtain ⟨hversion, hknown, hmeta⟩ :=
      WebhookConfiguration.decode_yields (decode_of_decodeWebhooks ha)
    exact ⟨⟨hversion, hknown⟩, hmeta⟩
  case mutatingWebhookConfiguration =>
    obtain ⟨hversion, hknown, hmeta⟩ :=
      WebhookConfiguration.decode_yields (decode_of_decodeWebhooks ha)
    exact ⟨⟨hversion, hknown⟩, hmeta⟩

/-- What was read can be written and read again. -/
theorem known_of_decodeLike {kubelet : String} {kind : Kind} {j : Json} {o : Object}
    (h : (empty kubelet kind).decodeLike j = .ok o) : o.Known kubelet :=
  (decodeLike_yields h).1

theorem key_of_decodeLike {kubelet : String} {kind : Kind} {j : Json} {o : Object}
    (h : (empty kubelet kind).decodeLike j = .ok o) (hname : (ownKey j).name ≠ "") :
    o.key = ownKey j := by
  refine ((decodeLike_yields h).2 ?_).key
  rintro js rfl
  exact hname rfl

/-- An object that was read has the version that its value gives itself. -/
theorem version_of_decodeLike {kubelet : String} {kind : Kind} {j : Json} {o : Object}
    {version : String} (h : (empty kubelet kind).decodeLike j = .ok o)
    (hversion : ownVersion j = some version) : o.metadata.resourceVersion = some version := by
  refine (((decodeLike_yields h).2 ?_).version).trans hversion
  rintro js rfl
  cases hversion

theorem encode_ne_arr (o : Object) (js : List Json) : o.encode ≠ .arr js := by
  have hwebhooks (kind : WebhookKind) (c : WebhookConfiguration) : c.encode kind ≠ .arr js := by
    unfold WebhookConfiguration.encode
    split <;> nofun
  cases o with
  | validatingWebhookConfiguration c => exact hwebhooks .validating c
  | mutatingWebhookConfiguration c => exact hwebhooks .mutating c
  | _ => nofun

/-- A known object is written under its own key. -/
theorem ownKey_encode {kubelet : String} {o : Object} (h : o.Known kubelet) :
    ownKey o.encode = o.key :=
  ((decodeLike_yields (decodeLike_encode h)).2 o.encode_ne_arr).key.symm

/-- It is written with its own version. -/
theorem ownVersion_encode {kubelet : String} {o : Object} (h : o.Known kubelet) :
    ownVersion o.encode = o.metadata.resourceVersion :=
  ((decodeLike_yields (decodeLike_encode h)).2 o.encode_ne_arr).version.symm

end Object

end Kube

end AgentOperator
