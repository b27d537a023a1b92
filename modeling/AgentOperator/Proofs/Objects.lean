import AgentOperator.Kube.Object
import AgentOperator.Proofs.Schemas

/-!
AgentOperator.Proofs.Objects — cluster objects read back from what they are
written as.

Most parts of an object are lossless, whatever they hold. Beside them stand
those that carry instants or any JSON along: metadata, volumes and statuses.
An object is *known* when these parts are ones that can be read, and a known
object is read back as it was written, in its own API generation
(`Object.decodeLike_encode`).
-/

namespace AgentOperator

/-- Objects that have the same members but for one. -/
def Json.SameBeside (name : String) (j k : Json) : Prop :=
  ∃ ms ns, j = .obj ms ∧ k = .obj ns ∧ ∀ n, n ≠ name → Entries.find? n ms = Entries.find? n ns

theorem Json.SameBeside.trans {name : String} {i j k : Json} (h : i.SameBeside name j)
    (h' : j.SameBeside name k) : i.SameBeside name k := by
  obtain ⟨ls, ms, rfl, rfl, hl⟩ := h
  obtain ⟨ms', ns, hms, rfl, hm⟩ := h'
  cases hms
  exact ⟨ls, ns, rfl, rfl, fun n hn => (hl n hn).trans (hm n hn)⟩

/-! ## Members carried along -/

namespace Schema

instance : Plain [opt "host" .string, opt "httpHeaders" httpHeaders] :=
  ⟨by decide, by decide, by decide⟩

instance : Plain [opt "terminationGracePeriodSeconds" .int64] :=
  ⟨by decide, by decide, by decide⟩

instance : Plain [opt "claims" resourceClaims] := ⟨by decide, by decide, by decide⟩

instance : Plain (opt "procMount" .string :: confinement) := ⟨by decide, by decide, by decide⟩

instance : Plain volumeMountFields := ⟨by decide, by decide, by decide⟩

instance : Plain containerFields := ⟨by decide, by decide, by decide⟩

instance : Plain podFields := ⟨by decide, by decide +kernel, by decide +kernel⟩

instance : Plain deploymentFields := ⟨by decide, by decide, by decide⟩

instance : Plain daemonSetFields := ⟨by decide, by decide, by decide⟩

instance : Plain serviceFields := ⟨by decide, by decide, by decide⟩

end Schema

instance : (Carried.codec (s := Schema.grpcAction)).Lossless := ⟨fun v =>
  Carried.codec_keeps (by decide) rfl (Schema.sound_of_plain _ (by decide) v.value)⟩

instance : (Carried.codec (s := Schema.tcpSocketAction)).Lossless := ⟨fun v =>
  Carried.codec_keeps (by decide) rfl (Schema.sound_of_plain _ (by decide) v.value)⟩

instance : (Carried.codec (s := Schema.podAffinity)).Lossless := ⟨fun v =>
  Carried.codec_keeps (by decide) rfl (Schema.sound_of_plain _ (by decide) v.value)⟩

namespace Kube

open Record (codec_lossless seq_restores map_restores after_restores required_restores
  optional_restores rest_restores)

/-! ## Lossless parts -/

instance : Quantity.codec.Lossless :=
  ⟨fun _ => Codec.imap_keeps (Codec.Lossless.keeps (c := Codec.string) _) rfl⟩

instance : OwnerReference.codec.Lossless := codec_lossless (by decide) fun _ => rfl

instance : LabelSelectorRequirement.codec.Lossless := codec_lossless (by decide) fun _ => rfl

instance : LabelSelector.codec.Lossless := codec_lossless (by decide) fun _ => rfl

instance : LocalObjectReference.codec.Lossless := codec_lossless (by decide) fun _ => rfl

instance : ConfigMapKeySelector.codec.Lossless := codec_lossless (by decide) fun _ => rfl

instance : SecretKeySelector.codec.Lossless := codec_lossless (by decide) fun _ => rfl

instance : ObjectFieldSelector.codec.Lossless := codec_lossless (by decide) fun _ => rfl

instance : ResourceFieldSelector.codec.Lossless := codec_lossless (by decide) fun _ => rfl

instance : EnvVarSource.codec.Lossless := codec_lossless (by decide) fun _ => rfl

instance : EnvVar.codec.Lossless := codec_lossless (by decide) fun _ => rfl

instance : ContainerPort.codec.Lossless := codec_lossless (by decide) fun _ => rfl

instance : ExecAction.codec.Lossless := codec_lossless (by decide) fun _ => rfl

instance : HttpGetAction.codec.Lossless := codec_lossless (by decide) fun _ => rfl

instance : Probe.codec.Lossless := codec_lossless (by decide) fun _ => rfl

instance : ResourceRequirements.codec.Lossless := codec_lossless (by decide) fun _ => rfl

instance : Capabilities.codec.Lossless := codec_lossless (by decide) fun _ => rfl

instance : SecurityContext.codec.Lossless := codec_lossless (by decide) fun _ => rfl

instance : VolumeMount.codec.Lossless := codec_lossless (by decide) fun _ => rfl

instance : Container.codec.Lossless := codec_lossless (by decide) fun _ => rfl

instance : NodeSelectorRequirement.codec.Lossless := codec_lossless (by decide) fun _ => rfl

instance : NodeSelectorTerm.codec.Lossless := codec_lossless (by decide) fun _ => rfl

instance : NodeSelector.codec.Lossless := codec_lossless (by decide) fun _ => rfl

instance : PreferredSchedulingTerm.codec.Lossless := codec_lossless (by decide) fun _ => rfl

instance : NodeAffinity.codec.Lossless := codec_lossless (by decide) fun _ => rfl

instance : Affinity.codec.Lossless := codec_lossless (by decide) fun _ => rfl

instance : Toleration.codec.Lossless := codec_lossless (by decide) fun _ => rfl

instance : KeyToPath.codec.Lossless := codec_lossless (by decide) fun _ => rfl

instance : ConfigMapVolumeSource.codec.Lossless := codec_lossless (by decide) fun _ => rfl

instance : HostPathVolumeSource.codec.Lossless := codec_lossless (by decide) fun _ => rfl

instance : SecretVolumeSource.codec.Lossless := codec_lossless (by decide) fun _ => rfl

instance : ServicePort.codec.Lossless := codec_lossless (by decide) fun _ => rfl

instance : ServiceSpec.codec.Lossless := codec_lossless (by decide) fun _ => rfl

instance : ServiceReference.codec.Lossless := codec_lossless (by decide) fun _ => rfl

instance : WebhookClientConfig.codec.Lossless := codec_lossless (by decide) fun _ => rfl

instance : RuleWithOperations.codec.Lossless := codec_lossless (by decide) fun _ => rfl

instance : AdmissionV1.MatchCondition.codec.Lossless := codec_lossless (by decide) fun _ => rfl

/-! ## Metadata and pods -/

/-- Metadata whose instants and server-side parts can be read. -/
structure ObjectMeta.Known (m : ObjectMeta) : Prop where
  deletion : ∀ t, m.deletionTimestamp = some t → t.Known
  rest : Schema.FieldsSound metaFields m.rest.values

theorem ObjectMeta.known_default : ObjectMeta.Known {} :=
  ⟨nofun, Rest.sound_default metaFields⟩

theorem ObjectMeta.codec_keeps {m : ObjectMeta} (h : m.Known) : ObjectMeta.codec.Keeps m := by
  refine Record.codec_keeps (by decide) ?_
  show Record.Restores _ m (ObjectMeta.mk m.name m.generateName m.namespace m.uid
    m.resourceVersion m.generation m.labels m.annotations m.ownerReferences m.finalizers
    m.deletionTimestamp m.rest)
  refine seq_restores (seq_restores (Record.Lossless.restores_of_eq rfl) ?_) ?_
  · exact optional_restores fun t ht => Codec.timestamp_keeps (h.deletion t ht)
  · exact rest_restores (by decide) h.rest

/-- A volume whose other sources can be read. -/
def Volume.Known (v : Volume) : Prop := Schema.FieldsSound Schema.volumeSources v.rest.values

theorem Volume.known_fresh (name : String) : Volume.Known { name } :=
  Rest.sound_default Schema.volumeSources

theorem Volume.codec_keeps {v : Volume} (h : v.Known) : Volume.codec.Keeps v := by
  refine Record.codec_keeps (by decide) ?_
  show Record.Restores _ v (Volume.mk v.name v.configMap v.hostPath v.secret v.rest)
  exact seq_restores (Record.Lossless.restores_of_eq rfl) (rest_restores (by decide) h)

def PodSpec.Known (p : PodSpec) : Prop := ∀ vs, p.volumes = some vs → ∀ v ∈ vs, v.Known

theorem PodSpec.codec_keeps {p : PodSpec} (h : p.Known) : PodSpec.codec.Keeps p := by
  refine Record.codec_keeps (by decide) ?_
  show Record.Restores _ p (PodSpec.mk p.affinity p.containers p.dnsPolicy p.hostNetwork
    p.hostPID p.imagePullSecrets p.nodeSelector p.priorityClassName p.serviceAccountName
    p.tolerations p.volumes p.rest)
  refine seq_restores (seq_restores (Record.Lossless.restores_of_eq rfl) ?_) (Record.Lossless.restores_of_eq rfl)
  exact optional_restores fun vs hvs =>
    Codec.list_keeps fun v hv => Volume.codec_keeps (h vs hvs v hv)

structure PodTemplateSpec.Known (t : PodTemplateSpec) : Prop where
  metadata : ∀ m, t.metadata = some m → m.Known
  spec : ∀ p, t.spec = some p → p.Known

theorem PodTemplateSpec.known_default : PodTemplateSpec.Known {} :=
  ⟨fun _ hm => (by cases hm), fun _ hp => (by cases hp)⟩

/-- The pod of a known template is known, also where there is none. -/
theorem PodTemplateSpec.Known.pod {t : PodTemplateSpec} (h : t.Known) : (t.spec.getD {}).Known := by
  cases hpod : t.spec with
  | none =>
    intro vs hvs
    cases hvs
  | some pod => exact h.spec pod hpod

theorem PodTemplateSpec.codec_keeps {t : PodTemplateSpec} (h : t.Known) :
    PodTemplateSpec.codec.Keeps t := by
  refine Record.codec_keeps (by decide) ?_
  show Record.Restores _ t (PodTemplateSpec.mk t.metadata t.spec)
  refine seq_restores (map_restores _ (optional_restores fun m hm => ?_))
    (optional_restores fun p hp => ?_)
  · exact ObjectMeta.codec_keeps (h.metadata m hm)
  · exact PodSpec.codec_keeps (h.spec p hp)

/-! ## Workloads -/

theorem DeploymentSpec.codec_keeps {d : DeploymentSpec} (h : d.template.Known) :
    DeploymentSpec.codec.Keeps d := by
  refine Record.codec_keeps (by decide) ?_
  show Record.Restores _ d (DeploymentSpec.mk d.replicas d.selector d.template d.rest)
  exact seq_restores (seq_restores (Record.Lossless.restores_of_eq rfl)
    (required_restores (PodTemplateSpec.codec_keeps h))) (Record.Lossless.restores_of_eq rfl)

def DeploymentStatus.Known (s : DeploymentStatus) : Prop :=
  Schema.FieldsSound Schema.deploymentStatusFields s.rest.values

theorem DeploymentStatus.codec_keeps {s : DeploymentStatus} (h : s.Known) :
    DeploymentStatus.codec.Keeps s := by
  refine Record.codec_keeps (by decide) ?_
  show Record.Restores _ s (DeploymentStatus.mk s.readyReplicas s.rest)
  exact seq_restores (Record.Lossless.restores_of_eq rfl) (rest_restores (by decide) h)

structure Deployment.Known (d : Deployment) : Prop where
  metadata : d.metadata.Known
  spec : ∀ s, d.spec = some s → s.template.Known
  status : ∀ s, d.status = some s → s.Known

theorem Deployment.codec_keeps {d : Deployment} (h : d.Known) : Deployment.codec.Keeps d := by
  refine Record.codec_keeps (by decide) ?_
  show Record.Restores _ d (Deployment.mk d.metadata d.spec d.status)
  refine after_restores (Record.Lossless.restores_of_eq rfl) (after_restores (Record.Lossless.restores_of_eq rfl) ?_)
  refine seq_restores (seq_restores (map_restores _ (required_restores ?_))
    (optional_restores fun s hs => ?_)) (optional_restores fun s hs => ?_)
  · exact ObjectMeta.codec_keeps h.metadata
  · exact DeploymentSpec.codec_keeps (h.spec s hs)
  · exact DeploymentStatus.codec_keeps (h.status s hs)

theorem DeploymentStatus.known_of_decode {j : Json} {s : DeploymentStatus}
    (h : DeploymentStatus.codec.decode j = .ok s) : s.Known := by
  cases j with
  | obj ms =>
    obtain ⟨g, rest, hg, hrest, rfl⟩ := Record.seq_read_eq_ok.1 h
    obtain ⟨ready, -, rfl⟩ := Except.map_eq_ok.1 hg
    obtain ⟨values, hvalues, rfl⟩ := Except.map_eq_ok.1 hrest
    exact Schema.fieldsSound_of_decode _ _ values hvalues
  | _ => cases h

/-- The members of a deployment that the operator writes. -/
def Deployment.written : Record Deployment (Option DeploymentStatus → Deployment) :=
  Deployment.mk <$> .required "metadata" (·.metadata) ObjectMeta.codec
    <*> .optional "spec" (·.spec) DeploymentSpec.codec

theorem Deployment.written_restores {d : Deployment} (h : d.Known) :
    Deployment.written.Restores d (Deployment.mk d.metadata d.spec) :=
  seq_restores (map_restores _ (required_restores (ObjectMeta.codec_keeps h.metadata)))
    (optional_restores fun s hs => DeploymentSpec.codec_keeps (h.spec s hs))

theorem Deployment.find?_written {d : Deployment} (h : d.Known) {name : String}
    (hname : name ∈ written.names) :
    (Deployment.codec.encode d).get? name = Entries.find? name (written.write d) := by
  let head : List (String × Json) :=
    [("apiVersion", .str "apps/v1"), ("kind", .str "Deployment")]
  let status := Record.optional "status" Deployment.status DeploymentStatus.codec
  have hstatus : status.Restores d d.status :=
    optional_restores fun s hs => DeploymentStatus.codec_keeps (h.status s hs)
  have hnodup : (["apiVersion", "kind"] ++ (written.names ++ ["status"])).Nodup := by decide
  have hkeys : ((head ++ (written.write d ++ status.write d)).map (·.1)).Sublist
      (["apiVersion", "kind"] ++ (written.names ++ ["status"])) := by
    rw [List.map_append, List.map_append]
    exact (List.Sublist.refl _).append ((written_restores h).keys.append hstatus.keys)
  have hwritten : (written.names ++ ["status"]).Nodup := (List.nodup_append.1 hnodup).2.1
  have hhead : (head.map (·.1)).Sublist ["apiVersion", "kind"] := List.Sublist.refl _
  show Entries.find? name (Entries.ofList (head ++ (written.write d ++ status.write d))) = _
  rw [Entries.find?_ofList name (hnodup.sublist hkeys),
    Record.find?_append_right hnodup hhead (List.mem_append_left _ hname),
    Record.find?_append_left hwritten hstatus.keys hname]

/-- A deployment whose status was changed by others is read back as it was
written, with some status that can be written again. -/
theorem Deployment.eq_of_decode {d e : Deployment} {j : Json} (h : d.Known)
    (hj : j.SameBeside "status" (Deployment.codec.encode d))
    (he : Deployment.codec.decode j = .ok e) :
    ∃ s, e = { d with status := s } ∧ ∀ t, s = some t → t.Known := by
  obtain ⟨ms, ns, rfl, hns, hsame⟩ := hj
  cases hns
  obtain ⟨g, s, hg, hs, rfl⟩ := Record.seq_read_eq_ok.1 (Record.after_read (Record.after_read he))
  refine ⟨s, ?_, fun t ht => ?_⟩
  · have hread : written.read (fun name => Entries.find? name ms)
        = .ok (Deployment.mk d.metadata d.spec) := by
      refine (written_restores h).read (by decide) _ fun name hname => ?_
      have hne : name ≠ "status" := by
        rintro rfl
        exact absurd hname (by decide)
      rw [hsame name hne]
      exact find?_written h hname
    cases hg.symm.trans hread
    rfl
  · subst ht
    obtain ⟨i, hi⟩ := Record.optional_read hs
    exact DeploymentStatus.known_of_decode hi

theorem DaemonSetSpec.codec_keeps {d : DaemonSetSpec} (h : d.template.Known) :
    DaemonSetSpec.codec.Keeps d := by
  refine Record.codec_keeps (by decide) ?_
  show Record.Restores _ d (DaemonSetSpec.mk d.selector d.template d.rest)
  exact seq_restores (seq_restores (Record.Lossless.restores_of_eq rfl)
    (required_restores (PodTemplateSpec.codec_keeps h))) (Record.Lossless.restores_of_eq rfl)

structure DaemonSet.Known (d : DaemonSet) : Prop where
  metadata : d.metadata.Known
  spec : ∀ s, d.spec = some s → s.template.Known
  status : ∀ s, d.status = some s → Schema.daemonSetStatus.Sound s.value

theorem DaemonSet.codec_keeps {d : DaemonSet} (h : d.Known) : DaemonSet.codec.Keeps d := by
  refine Record.codec_keeps (by decide) ?_
  show Record.Restores _ d (DaemonSet.mk d.metadata d.spec d.status)
  refine after_restores (Record.Lossless.restores_of_eq rfl)
    (after_restores (Record.Lossless.restores_of_eq rfl) ?_)
  refine seq_restores (seq_restores (map_restores _ (required_restores ?_))
    (optional_restores fun s hs => ?_)) (optional_restores fun s hs => ?_)
  · exact ObjectMeta.codec_keeps h.metadata
  · exact DaemonSetSpec.codec_keeps (h.spec s hs)
  · exact Carried.codec_keeps (by decide) rfl (h.status s hs)

/-! ## Services, config maps, secrets and priority classes -/

structure Service.Known (s : Service) : Prop where
  metadata : s.metadata.Known
  status : ∀ t, s.status = some t → Schema.serviceStatus.Sound t.value

theorem Service.codec_keeps {s : Service} (h : s.Known) : Service.codec.Keeps s := by
  refine Record.codec_keeps (by decide) ?_
  show Record.Restores _ s (Service.mk s.metadata s.spec s.status)
  refine after_restores (Record.Lossless.restores_of_eq rfl)
    (after_restores (Record.Lossless.restores_of_eq rfl) ?_)
  refine seq_restores (seq_restores (map_restores _ (required_restores ?_))
    (Record.Lossless.restores_of_eq rfl)) (optional_restores fun t ht => ?_)
  · exact ObjectMeta.codec_keeps h.metadata
  · exact Carried.codec_keeps (by decide) rfl (h.status t ht)

theorem ConfigMap.codec_keeps {m : ConfigMap} (h : m.metadata.Known) :
    ConfigMap.codec.Keeps m := by
  refine Record.codec_keeps (by decide) ?_
  show Record.Restores _ m (ConfigMap.mk m.metadata m.binaryData m.data m.immutable)
  refine after_restores (Record.Lossless.restores_of_eq rfl)
    (after_restores (Record.Lossless.restores_of_eq rfl) ?_)
  refine seq_restores (seq_restores (seq_restores (map_restores _ (required_restores ?_))
    (Record.Lossless.restores_of_eq rfl)) (Record.Lossless.restores_of_eq rfl))
    (Record.Lossless.restores_of_eq rfl)
  exact ObjectMeta.codec_keeps h

theorem Secret.codec_keeps {s : Secret} (h : s.metadata.Known) : Secret.codec.Keeps s := by
  refine Record.codec_keeps (by decide) ?_
  show Record.Restores _ s (Secret.mk s.metadata s.data s.immutable s.stringData s.type)
  refine after_restores (Record.Lossless.restores_of_eq rfl)
    (after_restores (Record.Lossless.restores_of_eq rfl) ?_)
  refine seq_restores (seq_restores (seq_restores (seq_restores
    (map_restores _ (required_restores ?_)) (Record.Lossless.restores_of_eq rfl))
    (Record.Lossless.restores_of_eq rfl)) (Record.Lossless.restores_of_eq rfl))
    (Record.Lossless.restores_of_eq rfl)
  exact ObjectMeta.codec_keeps h

theorem PriorityClassFields.record_restores {p : PriorityClassFields} (h : p.metadata.Known) :
    PriorityClassFields.record.Restores p p := by
  show Record.Restores _ p (PriorityClassFields.mk p.metadata p.description p.globalDefault
    p.preemptionPolicy p.value)
  refine seq_restores (seq_restores (seq_restores (seq_restores
    (map_restores _ (required_restores ?_)) (Record.Lossless.restores_of_eq rfl))
    (Record.Lossless.restores_of_eq rfl)) (Record.Lossless.restores_of_eq rfl))
    (Record.Lossless.restores_of_eq rfl)
  exact ObjectMeta.codec_keeps h

/-- A reading does not look at the API version. -/
theorem PriorityClass.decode_encode {p : PriorityClass} (h : p.metadata.Known) :
    PriorityClass.decode p.version p.encode = .ok p := by
  have hread : (Record.after (.constant "kind" "PriorityClass")
      PriorityClassFields.record).decodeObject p.encode = .ok p.toPriorityClassFields :=
    Record.decodeObject_beside
      (show (["apiVersion"] ++ (Record.after (.constant "kind" "PriorityClass")
        PriorityClassFields.record).names).Nodup by decide)
      (after_restores (Record.Lossless.restores_of_eq rfl)
        (PriorityClassFields.record_restores h))
  have hnull : p.encode ≠ .null := nofun
  rw [decode, if_neg hnull]
  exact Except.bind_eq_ok.2 ⟨_, hread, rfl⟩

/-! ## Webhook configurations -/

/-- An entry that the generation and the kind have a place for. -/
structure Webhook.Fits (kind : WebhookKind) (version : AdmissionVersion) (w : Webhook) : Prop where
  reinvocation : kind = .validating → w.reinvocationPolicy = none
  sideEffects : version = .v1 → w.sideEffects.isSome = true

structure WebhookConfiguration.Known (kind : WebhookKind) (c : WebhookConfiguration) : Prop where
  metadata : c.metadata.Known
  webhooks : ∀ w ∈ c.webhooks, w.Fits kind c.version

namespace AdmissionV1

theorem Webhook.codec_keeps {kind : WebhookKind} {w : Webhook}
    (h : kind = .validating → w.reinvocationPolicy = none) : (Webhook.codec kind).Keeps w := by
  cases kind with
  | mutating => exact (codec_lossless (by decide) fun _ => rfl : (codec .mutating).Lossless).keeps w
  | validating =>
    refine Record.codec_keeps (by decide) ?_
    show Record.Restores _ w (Webhook.mk w.admissionReviewVersions w.clientConfig
      w.failurePolicy w.matchConditions w.matchPolicy w.name w.namespaceSelector
      w.objectSelector w.reinvocationPolicy w.rules w.sideEffects w.timeoutSeconds)
    rw [h rfl]
    exact Record.Lossless.restores_of_eq rfl

/-- The metadata may be read back as other metadata. -/
theorem Configuration.decode_encode_as {kind : WebhookKind} {c : Configuration} {m : ObjectMeta}
    (hmeta : ObjectMeta.codec.decode (ObjectMeta.codec.encode c.metadata) = .ok m)
    (h : ∀ ws, c.webhooks = some ws → ∀ w ∈ ws, kind = .validating → w.reinvocationPolicy = none) :
    (Configuration.codec kind).decode ((Configuration.codec kind).encode c)
      = .ok { c with metadata := m } := by
  refine Record.codec_decode_encode (by cases kind <;> decide) ?_
  show Record.Restores _ c (Configuration.mk m c.webhooks)
  refine after_restores (Record.Lossless.restores_of_eq rfl)
    (after_restores (Record.Lossless.restores_of_eq rfl) ?_)
  refine seq_restores (map_restores _ (Record.required_restores_as hmeta nofun))
    (optional_restores fun ws hws => ?_)
  exact Codec.list_keeps fun w hw => Webhook.codec_keeps (h ws hws w hw)

theorem Configuration.codec_keeps {kind : WebhookKind} {c : Configuration}
    (hmeta : c.metadata.Known)
    (h : ∀ ws, c.webhooks = some ws → ∀ w ∈ ws, kind = .validating → w.reinvocationPolicy = none) :
    (Configuration.codec kind).Keeps c :=
  ⟨Configuration.decode_encode_as (ObjectMeta.codec_keeps hmeta).decode_encode h, nofun⟩

theorem Webhook.toEntry_ofEntry {w : Kube.Webhook} (h : w.sideEffects.isSome = true) :
    (ofEntry w).toEntry = w := by
  obtain ⟨effects, heffects⟩ := Option.isSome_iff_exists.1 h
  cases w
  subst heffects
  rfl

theorem Configuration.toNeutral_ofNeutral {c : WebhookConfiguration} (hversion : c.version = .v1)
    (h : ∀ w ∈ c.webhooks, w.sideEffects.isSome = true) : (ofNeutral c).toNeutral = c := by
  have hentries : (c.webhooks.map Webhook.ofEntry).map Webhook.toEntry = c.webhooks := by
    rw [List.map_map]
    exact (List.map_congr_left fun w hw => Webhook.toEntry_ofEntry (h w hw)).trans
      (List.map_id _)
  cases c
  subst hversion
  exact congrArg (WebhookConfiguration.mk .v1 _) hentries

end AdmissionV1

namespace AdmissionV1Beta1

theorem entryCodec_keeps (w : Webhook) : entryCodec.Keeps w :=
  Record.positionalCodec_keeps (by decide) (Record.Lossless.restores_of_eq rfl)

theorem bodyRecord_restores {c : WebhookConfiguration} {m : ObjectMeta}
    (hversion : c.version = .v1beta1)
    (hmeta : ObjectMeta.codec.decode (ObjectMeta.codec.encode c.metadata) = .ok m) :
    bodyRecord.Restores c { c with metadata := m } := by
  have h : bodyRecord.Restores c (WebhookConfiguration.mk .v1beta1 m c.webhooks) :=
    seq_restores (map_restores _ (Record.defaulted_restores hmeta))
      (Record.defaulted_restores (Codec.list_keeps fun w _ => entryCodec_keeps w).decode_encode)
  rwa [← hversion] at h

/-- The members that say what a configuration is. -/
def head (kind : WebhookKind) : List (String × Json) :=
  [("apiVersion", .str (AdmissionVersion.apiVersion .v1beta1)), ("kind", .str kind.name)]

theorem encode_eq (kind : WebhookKind) (c : WebhookConfiguration) :
    encode kind c = .object (head kind ++ bodyRecord.write c) := rfl

theorem head_names_nodup (kind : WebhookKind) :
    ((head kind).map (·.1) ++ bodyRecord.names).Nodup :=
  show (["apiVersion", "kind"] ++ bodyRecord.names).Nodup by decide

theorem decode_encode_as {kind : WebhookKind} {c : WebhookConfiguration} {m : ObjectMeta}
    (hversion : c.version = .v1beta1)
    (hmeta : ObjectMeta.codec.decode (ObjectMeta.codec.encode c.metadata) = .ok m)
    (h : ∀ w ∈ c.webhooks, kind = .validating → w.reinvocationPolicy = none) :
    decode kind (encode kind c) = .ok { c with metadata := m } := by
  have hread : bodyRecord.positionalCodec.decode (encode kind c) = .ok { c with metadata := m } := by
    rw [encode_eq]
    exact Record.decodeObject_beside (head_names_nodup kind) (bodyRecord_restores hversion hmeta)
  refine Except.bind_eq_ok.2 ⟨_, hread, ?_⟩
  cases kind with
  | mutating => rfl
  | validating =>
    have hentries : (c.webhooks.map fun w => { w with reinvocationPolicy := none })
        = c.webhooks := by
      refine (List.map_congr_left fun w hw => ?_).trans (List.map_id _)
      rw [← h w hw rfl]
      rfl
    show Except.ok { c with metadata := m, webhooks := _ } = _
    rw [hentries]

end AdmissionV1Beta1

theorem WebhookConfiguration.decode_encode_as {kind : WebhookKind} {c : WebhookConfiguration}
    {m : ObjectMeta} (hmeta : ObjectMeta.codec.decode (ObjectMeta.codec.encode c.metadata) = .ok m)
    (h : ∀ w ∈ c.webhooks, w.Fits kind c.version) :
    decode kind c.version (c.encode kind) = .ok { c with metadata := m } := by
  obtain ⟨version, metadata, webhooks⟩ := c
  cases version with
  | v1 =>
    have hfits : ∀ w ∈ webhooks.map AdmissionV1.Webhook.ofEntry, kind = .validating →
        w.reinvocationPolicy = none := by
      intro w hw hkind
      obtain ⟨entry, hentry, rfl⟩ := List.mem_map.1 hw
      exact (h entry hentry).reinvocation hkind
    have hread := AdmissionV1.Configuration.decode_encode_as
      (c := .ofNeutral ⟨.v1, metadata, webhooks⟩) hmeta fun _ hws w hw =>
        hfits w (Option.some.inj hws ▸ hw)
    show AdmissionV1.Configuration.toNeutral <$> (AdmissionV1.Configuration.codec kind).decode
      ((AdmissionV1.Configuration.codec kind).encode _) = _
    rw [hread]
    exact congrArg Except.ok (AdmissionV1.Configuration.toNeutral_ofNeutral
      (c := ⟨.v1, m, webhooks⟩) rfl fun w hw => (h w hw).sideEffects rfl)
  | v1beta1 =>
    exact AdmissionV1Beta1.decode_encode_as rfl hmeta fun w hw => (h w hw).reinvocation

theorem WebhookConfiguration.decode_encode {kind : WebhookKind} {c : WebhookConfiguration}
    (h : c.Known kind) : decode kind c.version (c.encode kind) = .ok c :=
  decode_encode_as (ObjectMeta.codec_keeps h.metadata).decode_encode h.webhooks

/-- A configuration of the generation `v1beta1` says what kind it is of. -/
theorem AdmissionV1Beta1.encode_kind {kind : WebhookKind} {c : WebhookConfiguration}
    {m : ObjectMeta} (hversion : c.version = .v1beta1)
    (hmeta : ObjectMeta.codec.decode (ObjectMeta.codec.encode c.metadata) = .ok m) :
    (AdmissionV1Beta1.encode kind c).get? "kind" = some (.str kind.name) := by
  have hnodup : ((head kind ++ bodyRecord.write c).map (·.1)).Nodup := by
    rw [List.map_append]
    exact (head_names_nodup kind).sublist
      ((List.Sublist.refl _).append (bodyRecord_restores hversion hmeta).keys)
  rw [encode_eq]
  exact Entries.find?_ofList "kind" hnodup

/-! ## Objects -/

theorem orUnreadable_eq_ok {α : Type} {r : Except WireError α} {a : α} :
    orUnreadable r = .ok a ↔ r = .ok a := by
  cases r <;> simp [orUnreadable]

namespace Object

/-- An object that can be read back in the API generation a kubelet version
asks for. -/
def Known (kubelet : String) : Object → Prop
  | .deployment d => d.Known
  | .daemonSet d => d.Known
  | .service s => s.Known
  | .secret s => s.metadata.Known
  | .configMap m => m.metadata.Known
  | .priorityClass p => p.version = .ofKubelet kubelet ∧ p.metadata.Known
  | .validatingWebhookConfiguration c => c.version = .ofKubelet kubelet ∧ c.Known .validating
  | .mutatingWebhookConfiguration c => c.version = .ofKubelet kubelet ∧ c.Known .mutating

theorem decodeWebhooks_encode_as {kind : WebhookKind} {c : WebhookConfiguration} {m : ObjectMeta}
    (hmeta : ObjectMeta.codec.decode (ObjectMeta.codec.encode c.metadata) = .ok m)
    (h : ∀ w ∈ c.webhooks, w.Fits kind c.version) :
    decodeWebhooks kind c.version (c.encode kind) = .ok { c with metadata := m } := by
  have hread := orUnreadable_eq_ok.2 (WebhookConfiguration.decode_encode_as hmeta h)
  obtain ⟨version, metadata, webhooks⟩ := c
  cases version with
  | v1 => exact hread
  | v1beta1 =>
    have hkind : (AdmissionV1Beta1.encode kind ⟨.v1beta1, metadata, webhooks⟩).get? "kind"
        = some (.str kind.name) := AdmissionV1Beta1.encode_kind rfl hmeta
    simp only [WebhookConfiguration.encode] at hread ⊢
    simp only [decodeWebhooks, hkind, Option.bind_some, Json.asString?, if_true]
    exact hread

theorem decodeWebhooks_encode {kind : WebhookKind} {c : WebhookConfiguration}
    (h : c.Known kind) : decodeWebhooks kind c.version (c.encode kind) = .ok c :=
  decodeWebhooks_encode_as (ObjectMeta.codec_keeps h.metadata).decode_encode h.webhooks

/-- A known object is read back as it was written. -/
theorem decodeLike_encode {kubelet : String} {o : Object} (h : o.Known kubelet) :
    (empty kubelet o.kind).decodeLike o.encode = .ok o := by
  cases o with
  | deployment d =>
    exact congrArg (deployment <$> ·) (orUnreadable_eq_ok.2 (Deployment.codec_keeps h).decode_encode)
  | daemonSet d =>
    exact congrArg (daemonSet <$> ·) (orUnreadable_eq_ok.2 (DaemonSet.codec_keeps h).decode_encode)
  | service s =>
    exact congrArg (service <$> ·) (orUnreadable_eq_ok.2 (Service.codec_keeps h).decode_encode)
  | secret s =>
    exact congrArg (secret <$> ·) (orUnreadable_eq_ok.2 (Secret.codec_keeps h).decode_encode)
  | configMap m =>
    exact congrArg (configMap <$> ·) (orUnreadable_eq_ok.2 (ConfigMap.codec_keeps h).decode_encode)
  | priorityClass p =>
    have hread := orUnreadable_eq_ok.2 (PriorityClass.decode_encode h.2)
    rw [h.1] at hread
    exact congrArg (priorityClass <$> ·) hread
  | validatingWebhookConfiguration c =>
    have hread := decodeWebhooks_encode h.2
    rw [h.1] at hread
    exact congrArg (validatingWebhookConfiguration <$> ·) hread
  | mutatingWebhookConfiguration c =>
    have hread := decodeWebhooks_encode h.2
    rw [h.1] at hread
    exact congrArg (mutatingWebhookConfiguration <$> ·) hread

end Object

end Kube

end AgentOperator
