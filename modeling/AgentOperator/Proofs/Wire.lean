import AgentOperator.Proofs.Readings

/-!
AgentOperator.Proofs.Wire — which objects come back from the wire as they went.

An object is written as JSON and read as one of its own kind and API generation
(`Object.decodeLike_encode_iff`). It comes back as it was exactly if the parts of it
that are of the cluster's own types do (`Object.PartsKept`), and if its webhook
entries hold what the generation and the kind have a place for (`Object.EntriesFit`).

What the cluster's own types fail to keep is little: instants beyond what can be
written, and null in the place of any JSON at all. An object without them is
`Readable`.
-/

namespace AgentOperator

theorem Except.map_eq_ok_of_injective {ε α β : Type} {f : α → β} (hf : f.Injective)
    {x : Except ε α} {a : α} : f <$> x = .ok (f a) ↔ x = .ok a := by
  refine Except.map_eq_ok.trans ⟨?_, fun h => ⟨a, h, rfl⟩⟩
  rintro ⟨b, hb, heq⟩
  rwa [← hf heq]

/-- A value is read back as it is written exactly if it is one that is kept, where
only such values are ever read. -/
theorem Codec.decode_encode_iff {α : Type} {c : Codec α} {P : α → Prop} {a : α}
    (hkeeps : P a → c.Keeps a) (hyields : c.Yields fun _ => P) :
    c.decode (c.encode a) = .ok a ↔ P a :=
  ⟨fun hread => hyields _ a hread, fun h => (hkeeps h).decode_encode⟩

namespace Kube

/-! ## Metadata and whole objects -/

theorem ObjectMeta.decode_encode_iff {m : ObjectMeta} :
    codec.decode (codec.encode m) = .ok m ↔ m.Known :=
  Codec.decode_encode_iff codec_keeps fun j m hm => (codec_yields j m hm).known

theorem Deployment.decode_encode_iff {d : Deployment} :
    codec.decode (codec.encode d) = .ok d ↔ d.Known :=
  Codec.decode_encode_iff codec_keeps fun j d hd => (codec_yields j d hd).1

theorem DaemonSet.decode_encode_iff {d : DaemonSet} :
    codec.decode (codec.encode d) = .ok d ↔ d.Known :=
  Codec.decode_encode_iff codec_keeps fun j d hd => (codec_yields j d hd).1

theorem Service.decode_encode_iff {s : Service} :
    codec.decode (codec.encode s) = .ok s ↔ s.Known :=
  Codec.decode_encode_iff codec_keeps fun j s hs => (codec_yields j s hs).1

theorem Secret.decode_encode_iff {s : Secret} :
    codec.decode (codec.encode s) = .ok s ↔ s.metadata.Known :=
  Codec.decode_encode_iff codec_keeps fun j s hs => (codec_yields j s hs).known

theorem ConfigMap.decode_encode_iff {m : ConfigMap} :
    codec.decode (codec.encode m) = .ok m ↔ m.metadata.Known :=
  Codec.decode_encode_iff codec_keeps fun j m hm => (codec_yields j m hm).known

theorem PriorityClass.decode_encode_iff {p : PriorityClass} :
    decode p.version p.encode = .ok p ↔ p.metadata.Known :=
  ⟨fun hread => (PriorityClass.yields hread).2.known, PriorityClass.decode_encode⟩

/-! ## Objects of any kind -/

namespace Object

/-- What is of the cluster's own types is read back as it is written. Objects of most
kinds are such a value as a whole. Of the kinds that are held in one form for all API
generations, the metadata is; what they hold of such types beside it is always kept. -/
def PartsKept : Object → Prop
  | .deployment d => Deployment.codec.decode (Deployment.codec.encode d) = .ok d
  | .daemonSet d => DaemonSet.codec.decode (DaemonSet.codec.encode d) = .ok d
  | .service s => Service.codec.decode (Service.codec.encode s) = .ok s
  | .secret s => Secret.codec.decode (Secret.codec.encode s) = .ok s
  | .configMap m => ConfigMap.codec.decode (ConfigMap.codec.encode m) = .ok m
  | .priorityClass p => ObjectMeta.codec.decode (ObjectMeta.codec.encode p.metadata) = .ok p.metadata
  | .validatingWebhookConfiguration c | .mutatingWebhookConfiguration c =>
    ObjectMeta.codec.decode (ObjectMeta.codec.encode c.metadata) = .ok c.metadata

/-- Every instant can be written, and where any JSON may stand there is no null. -/
def Readable : Object → Prop
  | .deployment d => d.Known
  | .daemonSet d => d.Known
  | .service s => s.Known
  | .secret s => s.metadata.Known
  | .configMap m => m.metadata.Known
  | .priorityClass p => p.metadata.Known
  | .validatingWebhookConfiguration c | .mutatingWebhookConfiguration c => c.metadata.Known

/-- Side effects are stated in every entry of the generation `v1`, and no validating
entry has a reinvocation policy. -/
def EntriesFit : Object → Prop
  | .validatingWebhookConfiguration c => ∀ w ∈ c.webhooks, w.Fits .validating c.version
  | .mutatingWebhookConfiguration c => ∀ w ∈ c.webhooks, w.Fits .mutating c.version
  | _ => True

theorem partsKept_iff (o : Object) : o.PartsKept ↔ o.Readable := by
  cases o with
  | deployment d => exact Deployment.decode_encode_iff
  | daemonSet d => exact DaemonSet.decode_encode_iff
  | service s => exact Service.decode_encode_iff
  | secret s => exact Secret.decode_encode_iff
  | configMap m => exact ConfigMap.decode_encode_iff
  | priorityClass p => exact ObjectMeta.decode_encode_iff
  | validatingWebhookConfiguration c => exact ObjectMeta.decode_encode_iff
  | mutatingWebhookConfiguration c => exact ObjectMeta.decode_encode_iff

theorem decodeWebhooks_encode_iff {kind : WebhookKind} {c : WebhookConfiguration} :
    decodeWebhooks kind c.version (c.encode kind) = .ok c
      ↔ c.metadata.Known ∧ ∀ w ∈ c.webhooks, w.Fits kind c.version := by
  constructor
  · intro hread
    obtain ⟨-, hknown, -⟩ := WebhookConfiguration.decode_yields (decode_of_decodeWebhooks hread)
    exact ⟨hknown.metadata, hknown.webhooks⟩
  · rintro ⟨hmetadata, hentries⟩
    exact decodeWebhooks_encode ⟨hmetadata, hentries⟩

/-- Of the kinds without entries, an object is read back exactly if its only part is. -/
theorem map_decode_encode_iff {α : Type} {make : α → Object} (hmake : make.Injective)
    {r : Except WireError α} {a : α} {P : Prop} (h : r = .ok a ↔ P) :
    make <$> orUnreadable r = .ok (make a) ↔ P ∧ True :=
  (Except.map_eq_ok_of_injective hmake).trans <|
    orUnreadable_eq_ok.trans (h.trans (and_iff_left trivial).symm)

theorem decodeLike_encode_iff_readable (o : Object) :
    o.decodeLike o.encode = .ok o ↔ o.Readable ∧ o.EntriesFit := by
  cases o with
  | deployment d =>
    exact map_decode_encode_iff (fun _ _ => deployment.inj) Deployment.decode_encode_iff
  | daemonSet d =>
    exact map_decode_encode_iff (fun _ _ => daemonSet.inj) DaemonSet.decode_encode_iff
  | service s =>
    exact map_decode_encode_iff (fun _ _ => service.inj) Service.decode_encode_iff
  | secret s =>
    exact map_decode_encode_iff (fun _ _ => secret.inj) Secret.decode_encode_iff
  | configMap m =>
    exact map_decode_encode_iff (fun _ _ => configMap.inj) ConfigMap.decode_encode_iff
  | priorityClass p =>
    exact map_decode_encode_iff (fun _ _ => priorityClass.inj) PriorityClass.decode_encode_iff
  | validatingWebhookConfiguration c =>
    exact (Except.map_eq_ok_of_injective fun _ _ => validatingWebhookConfiguration.inj).trans
      decodeWebhooks_encode_iff
  | mutatingWebhookConfiguration c =>
    exact (Except.map_eq_ok_of_injective fun _ _ => mutatingWebhookConfiguration.inj).trans
      decodeWebhooks_encode_iff

/-- **Objects survive the wire.** Read as one of its own kind and API generation, what
an object is written as is that object, if the parts of it that are of the cluster's own
types are kept and its entries fit; and only then. Of such parts, the readable ones are
those that are kept. -/
theorem decodeLike_encode_iff (o : Object) :
    (o.decodeLike o.encode = .ok o ↔ o.PartsKept ∧ o.EntriesFit) ∧
      (o.PartsKept ↔ o.Readable) := by
  rw [decodeLike_encode_iff_readable, partsKept_iff]
  exact ⟨Iff.rfl, Iff.rfl⟩

end Object

end Kube

end AgentOperator
