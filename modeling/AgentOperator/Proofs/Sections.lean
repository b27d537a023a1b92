import AgentOperator.Agent.Defaults
import AgentOperator.Proofs.Objects
import AgentOperator.Proofs.Variants

/-!
AgentOperator.Proofs.Sections — the sections of an agent's spec, left out, extended and read
back.

A section that is left out has the values of its structure, and a member that is left out of
a section has the default of its description. These agree but for the pull policy of an
image, which is filled in either way. So leaving out a section is as good as leaving it empty
once the spec is filled in (`sections_may_be_left_out`), and a spec is read back as itself
from what is written for it, whatever unknown members are added (`decode_extended`).
-/

namespace AgentOperator

/-! ## Lossless descriptions -/

theorem Codec.nullable_decode_encode {c : Codec α} [c.Lossless] (a : Option α) :
    c.nullable.decode (c.nullable.encode a) = .ok a := by
  cases a with
  | none => rfl
  | some a =>
    have hkeeps := Codec.Lossless.keeps (c := c) a
    simp only [nullable]
    split
    · rename_i hnull
      exact absurd hnull hkeeps.ne_null
    · rw [hkeeps.decode_encode]
      rfl

namespace Section

variable {σ τ α β : Type} {name : String}

instance {s : Section σ α} {get : σ → α} {f : α → β} [s.record.Lossless get] :
    (f <$> s).record.Lossless fun a => f (get a) :=
  inferInstanceAs (Record.Lossless (f <$> s.record) _)

instance {f : Section σ (α → β)} {s : Section σ α} {get : σ → α → β} {get' : σ → α}
    [f.record.Lossless get] [s.record.Lossless get'] :
    (f <*> s).record.Lossless fun a => get a (get' a) :=
  inferInstanceAs (Record.Lossless (f.record <*> s.record) _)

instance {get : σ → α} {d : Described α} [d.codec.Lossless] :
    (mandatory name get d).record.Lossless get :=
  inferInstanceAs (Record.Lossless (.mandatory name get d.codec) _)

instance {get : σ → α} {d : Described α} {value : α} [d.codec.Lossless] :
    (field name get d value).record.Lossless get :=
  inferInstanceAs (Record.Lossless (.defaulted name get d.codec value) _)

/-- Null is read back as well where it is not taken for a missing member. -/
instance {get : σ → Option α} {d : Described α} {value : Option α} [d.codec.Lossless] :
    (field name get d.nullable value).record.Lossless get where
  restores s := by
    refine Record.defaulted_restores ?_
    exact Codec.nullable_decode_encode _

instance {get : σ → τ} {s : Section τ α} {get' : τ → α} [s.record.Lossless get'] :
    (within get s).record.Lossless fun a => get' (get a) :=
  inferInstanceAs (Record.Lossless (.within get s.record) _)

theorem described_lossless {s : Section α α} {get : α → α} [s.record.Lossless get]
    (hnodup : s.record.names.Nodup) (hget : ∀ a, get a = a) : s.described.codec.Lossless :=
  ⟨fun a => Record.positionalCodec_keeps hnodup (Record.Lossless.restores_of_eq (hget a))⟩

theorem describedOpenly_lossless {s : Section α α} {get : α → α} [s.record.Lossless get]
    (hnodup : s.record.names.Nodup) (hget : ∀ a, get a = a) : s.describedOpenly.codec.Lossless :=
  ⟨fun a => ⟨Record.decodeObject_object hnodup (Record.Lossless.restores_of_eq (hget a)), nofun⟩⟩

end Section

namespace Described

instance : Described.string.codec.Lossless := inferInstanceAs Codec.string.Lossless

instance : Described.bool.codec.Lossless := inferInstanceAs Codec.bool.Lossless

instance : Described.int32.codec.Lossless := inferInstanceAs Codec.int32.Lossless

instance {d : Described α} [d.codec.Lossless] : d.list.codec.Lossless :=
  inferInstanceAs d.codec.list.Lossless

instance {d : Described α} [d.codec.Lossless] : d.dict.codec.Lossless :=
  inferInstanceAs d.codec.dict.Lossless

end Described

namespace Agent

open Section (described_lossless describedOpenly_lossless described_tolerates described_lenient
  describedOpenly_lenient seq_tolerates map_tolerates)

variable {drops : Bool}

instance : resources.codec.Lossless := inferInstanceAs Kube.ResourceRequirements.codec.Lossless

instance : affinity.codec.Lossless := inferInstanceAs Kube.Affinity.codec.Lossless

instance : toleration.codec.Lossless := inferInstanceAs Kube.Toleration.codec.Lossless

instance : Image.described.codec.Lossless := described_lossless (by decide) fun _ => rfl

instance : Prometheus.described.codec.Lossless := described_lossless (by decide) fun _ => rfl

instance : ProbeTiming.members.record.Lossless id := by
  unfold ProbeTiming.members
  exact inferInstance

instance : HttpProbes.described.codec.Lossless := describedOpenly_lossless (by decide) fun _ => rfl

instance : FileProbes.described.codec.Lossless := describedOpenly_lossless (by decide) fun _ => rfl

instance : ApiGateway.described.codec.Lossless := described_lossless (by decide) fun _ => rfl

instance : EventsGateway.described.codec.Lossless := described_lossless (by decide) fun _ => rfl

instance : GatewayTls.described.codec.Lossless := described_lossless (by decide) fun _ => rfl

instance : Gateways.described.codec.Lossless := described_lossless (by decide) fun _ => rfl

instance : Monitor.described.codec.Lossless := described_lossless (by decide) fun _ => rfl

instance : Enforcer.described.codec.Lossless := described_lossless (by decide) fun _ => rfl

instance : StateReporter.described.codec.Lossless := described_lossless (by decide) fun _ => rfl

instance : Basic.described.codec.Lossless := described_lossless (by decide) fun _ => rfl

instance : Resolver.described.codec.Lossless := described_lossless (by decide) fun _ => rfl

instance : Sensor.described.codec.Lossless := described_lossless (by decide) fun _ => rfl

instance : RuntimeProtection.described.codec.Lossless := described_lossless (by decide) fun _ => rfl

instance : ImageScanningReporter.described.codec.Lossless :=
  described_lossless (by decide) fun _ => rfl

instance : CrioPaths.described.codec.Lossless := described_lossless (by decide) fun _ => rfl

instance : ContainerEngine.described.codec.Lossless := described_lossless (by decide) fun _ => rfl

instance : CliFlags.described.codec.Lossless := described_lossless (by decide) fun _ => rfl

instance : ClusterScanner.described.codec.Lossless := described_lossless (by decide) fun _ => rfl

instance : ClusterScanning.described.codec.Lossless := described_lossless (by decide) fun _ => rfl

instance : Proxy.described.codec.Lossless := described_lossless (by decide) fun _ => rfl

instance : Settings.described.codec.Lossless := described_lossless (by decide) fun _ => rfl

instance : Components.described.codec.Lossless := described_lossless (by decide) fun _ => rfl

instance : Spec.described.codec.Lossless := described_lossless (by decide) fun _ => rfl

/-! ## Sections without an image -/

instance : resources.Tolerates drops Eq := Described.tolerates_of_isRigid rfl

instance : affinity.Tolerates drops Eq := Described.tolerates_of_isRigid rfl

instance : affinity.nullable.Tolerates drops Eq := Described.tolerates_of_isRigid rfl

instance : resources.Blank drops Eq {} where
  empty {j a} _ _ hempty h := by
    match j with
    | .obj [] =>
      have hread : resources.codec.decode (.obj []) = .ok {} := by rfl
      cases hread.symm.trans h
      rfl
    | .arr [] => cases h

instance : ProbeTiming.members.Tolerates drops Eq := by
  unfold ProbeTiming.members
  exact inferInstance

instance : HttpProbes.described.Lenient drops Eq {} :=
  describedOpenly_lenient inferInstance (by decide) rfl

instance : FileProbes.described.Lenient drops Eq {} :=
  describedOpenly_lenient inferInstance (by decide) rfl

instance : ApiGateway.described.Lenient drops Eq {} :=
  described_lenient inferInstance (by decide) rfl

instance : EventsGateway.described.Lenient drops Eq {} :=
  described_lenient inferInstance (by decide) rfl

instance : GatewayTls.described.Lenient drops Eq {} :=
  described_lenient inferInstance (by decide) rfl

instance : Gateways.described.Lenient drops Eq {} := described_lenient inferInstance (by decide) rfl

instance : CrioPaths.described.Lenient drops Eq {} :=
  described_lenient inferInstance (by decide) rfl

instance : ContainerEngine.described.Lenient drops Eq {} :=
  described_lenient inferInstance (by decide) rfl

instance : CliFlags.described.Lenient drops Eq {} := described_lenient inferInstance (by decide) rfl

instance : Proxy.described.Lenient drops Eq {} := described_lenient inferInstance (by decide) rfl

instance : Settings.described.Lenient drops Eq {} := described_lenient inferInstance (by decide) rfl

instance : Prometheus.described.Lenient drops Eq {} :=
  described_lenient inferInstance (by decide) rfl

/-! ## Sections with images -/

/-- Values that are the same once they are filled in, and are the same anyhow unless sections
may be dropped. -/
structure Alike (drops : Bool) (fill : α → β) (a b : α) : Prop where
  filled : fill a = fill b
  same : drops = false → a = b

instance {fill : α → β} : Std.Refl (Alike drops fill) := ⟨fun _ => ⟨rfl, fun _ => rfl⟩⟩

/-- An empty image has a pull policy. -/
theorem Image.described_lenient :
    Image.described.Lenient drops Eq { pullPolicy := "IfNotPresent" } :=
  Section.described_lenient inferInstance (by decide) rfl

/-- A missing one has none, which filling in makes up for. -/
instance : Image.described.Lenient drops (Alike drops Image.withDefaults) {} where
  decode hvariant hread := by
    obtain ⟨b, hb, rfl⟩ := Image.described_lenient.decode hvariant hread
    exact ⟨_, hb, Std.Refl.refl _⟩
  empty hdrops hcollection hempty hread := by
    rw [Image.described_lenient.empty hdrops hcollection hempty hread]
    exact ⟨rfl, fun h => absurd hdrops (by simp [h])⟩

instance : Monitor.described.Lenient drops (Alike drops Monitor.withDefaults) {} := by
  refine described_lenient ?_ (by decide) rfl
  iterate 8 refine seq_tolerates ?_
  refine map_tolerates ?_
  -- All members but the image are read as the same.
  simp only [forall_eq']
  intro labels deployment pod env image image' himage resources probes selector affinity
  exact ⟨by simp [Monitor.withDefaults, himage.filled], fun hdrops => by rw [himage.same hdrops]⟩

instance : Enforcer.described.Lenient drops (Alike drops Enforcer.withDefaults) {} := by
  refine described_lenient ?_ (by decide) rfl
  iterate 13 refine seq_tolerates ?_
  refine map_tolerates ?_
  simp only [forall_eq']
  intro labels deployment pod replicas env image image' himage resources probes prometheus
    timeout policy enforcement selector affinity
  exact ⟨by simp [Enforcer.withDefaults, himage.filled], fun hdrops => by rw [himage.same hdrops]⟩

instance : StateReporter.described.Lenient drops (Alike drops StateReporter.withDefaults) {} := by
  refine described_lenient ?_ (by decide) rfl
  iterate 8 refine seq_tolerates ?_
  refine map_tolerates ?_
  simp only [forall_eq']
  intro labels deployment pod env image image' himage resources probes selector affinity
  exact ⟨by simp [StateReporter.withDefaults, himage.filled],
    fun hdrops => by rw [himage.same hdrops]⟩

instance : Resolver.described.Lenient drops (Alike drops Resolver.withDefaults) {} := by
  refine described_lenient ?_ (by decide) rfl
  iterate 12 refine seq_tolerates ?_
  refine map_tolerates ?_
  simp only [forall_eq']
  intro labels deployment pod replicas env image image' himage resources probes prometheus
    selector affinity level ratio
  exact ⟨by simp [Resolver.withDefaults, himage.filled], fun hdrops => by rw [himage.same hdrops]⟩

instance : Sensor.described.Lenient drops (Alike drops Sensor.withDefaults) {} := by
  refine described_lenient ?_ (by decide) rfl
  iterate 8 refine seq_tolerates ?_
  refine map_tolerates ?_
  simp only [forall_eq']
  intro labels daemonSet pod env image image' himage resources probes prometheus level
  exact ⟨by simp [Sensor.withDefaults, himage.filled], fun hdrops => by rw [himage.same hdrops]⟩

instance : ImageScanningReporter.described.Lenient drops
    (Alike drops ImageScanningReporter.withDefaults) {} := by
  refine described_lenient ?_ (by decide) rfl
  iterate 10 refine seq_tolerates ?_
  refine map_tolerates ?_
  simp only [forall_eq']
  intro labels deployment pod replicas env image image' himage resources probes prometheus
    selector affinity
  exact ⟨by simp [ImageScanningReporter.withDefaults, himage.filled],
    fun hdrops => by rw [himage.same hdrops]⟩

instance :
    ClusterScanner.described.Lenient drops (Alike drops ClusterScanner.withDefaults) {} := by
  refine described_lenient ?_ (by decide) rfl
  iterate 9 refine seq_tolerates ?_
  refine map_tolerates ?_
  simp only [forall_eq']
  intro labels daemonSet pod env image image' himage resources probes prometheus engine flags
  exact ⟨by simp [ClusterScanner.withDefaults, himage.filled],
    fun hdrops => by rw [himage.same hdrops]⟩

/-- The components that are always installed, filled in. -/
def Basic.filled (b : Basic) : Basic where
  monitor := b.monitor.withDefaults
  enforcer := b.enforcer.withDefaults
  stateReporter := b.stateReporter.withDefaults

def RuntimeProtection.filled (p : RuntimeProtection) : RuntimeProtection :=
  { p with resolver := p.resolver.withDefaults, sensor := p.sensor.withDefaults }

def ClusterScanning.filled (s : ClusterScanning) : ClusterScanning :=
  { s with
    imageScanningReporter := s.imageScanningReporter.withDefaults
    clusterScanner := s.clusterScanner.withDefaults }

theorem Components.withDefaults_eq (c : Components) :
    c.withDefaults = ⟨c.basic.filled, c.runtimeProtection.filled, c.clusterScanning.filled,
      c.settings.withDefaults⟩ :=
  rfl

instance : Basic.described.Lenient drops (Alike drops Basic.filled) {} := by
  refine described_lenient ?_ (by decide) rfl
  iterate 2 refine seq_tolerates ?_
  refine map_tolerates ?_
  intro monitor monitor' hmonitor enforcer enforcer' henforcer reporter reporter' hreporter
  exact ⟨by simp [Basic.filled, hmonitor.filled, henforcer.filled, hreporter.filled],
    fun hdrops => by rw [hmonitor.same hdrops, henforcer.same hdrops, hreporter.same hdrops]⟩

instance :
    RuntimeProtection.described.Lenient drops (Alike drops RuntimeProtection.filled) {} := by
  refine described_lenient ?_ (by decide) rfl
  iterate 3 refine seq_tolerates ?_
  refine map_tolerates ?_
  simp only [forall_eq']
  intro enabled resolver resolver' hresolver sensor sensor' hsensor port
  exact ⟨by simp [RuntimeProtection.filled, hresolver.filled, hsensor.filled],
    fun hdrops => by rw [hresolver.same hdrops, hsensor.same hdrops]⟩

instance : ClusterScanning.described.Lenient drops (Alike drops ClusterScanning.filled) {} := by
  refine described_lenient ?_ (by decide) rfl
  iterate 2 refine seq_tolerates ?_
  refine map_tolerates ?_
  simp only [forall_eq']
  intro enabled reporter reporter' hreporter scanner scanner' hscanner
  exact ⟨by simp [ClusterScanning.filled, hreporter.filled, hscanner.filled],
    fun hdrops => by rw [hreporter.same hdrops, hscanner.same hdrops]⟩

instance : Components.described.Lenient drops (Alike drops Components.withDefaults) {} := by
  refine described_lenient ?_ (by decide) rfl
  iterate 3 refine seq_tolerates ?_
  refine map_tolerates ?_
  simp only [forall_eq']
  intro basic basic' hbasic protection protection' hprotection scanning scanning' hscanning
    settings
  exact ⟨by simp [Components.withDefaults_eq, hbasic.filled, hprotection.filled, hscanning.filled],
    fun hdrops => by rw [hbasic.same hdrops, hprotection.same hdrops, hscanning.same hdrops]⟩

theorem Spec.described_tolerates (drops : Bool) :
    Spec.described.Tolerates drops (Alike drops Spec.withDefaults) := by
  refine Section.described_tolerates ?_ (by decide)
  iterate 6 refine seq_tolerates ?_
  refine map_tolerates ?_
  simp only [forall_eq']
  intro account cluster version space secret gateways components components' hcomponents
  exact ⟨by simp [Spec.withDefaults, hcomponents.filled],
    fun hdrops => by rw [hcomponents.same hdrops]⟩

/-! ## Specs -/

/-- **Left out is as good as empty.** If a spec is read from a JSON value, one is read as well
from the same value without an empty section, and once filled in it is the same. -/
theorem sections_may_be_left_out {path : List String} {j k : Json} {s : Spec}
    (hpath : Outline.LeavesOut path Spec.codec.outline j k)
    (hread : Spec.codec.decode j = .ok s) :
    ∃ t, Spec.codec.decode k = .ok t ∧ t.withDefaults = s.withDefaults := by
  obtain ⟨t, ht, halike⟩ := (Spec.described_tolerates true).decode hpath.variant hread
  exact ⟨t, ht, halike.filled.symm⟩

/-- A spec with this description of its monitor. -/
def monitored (monitor : Json) : Json :=
  .object [("account", .str "acc"), ("clusterName", .str "c"), ("version", .str "1.0.0"),
    ("components", .object [("basic", .object [("monitor", monitor)])])]

theorem image_may_be_left_out :
    ∃ s t, Spec.codec.decode (monitored (.object [("image", .object [])])) = .ok s ∧
      Spec.codec.decode (monitored (.object [])) = .ok t ∧ t.withDefaults = s.withDefaults := by
  have hpath : Outline.LeavesOut ["components", "basic", "monitor", "image"] Spec.codec.outline
      (monitored (.object [("image", .object [])])) (monitored (.object [])) :=
    .inMember rfl rfl rfl <| .inMember rfl rfl rfl <| .inMember rfl rfl rfl <|
      .member rfl rfl rfl rfl rfl
  obtain ⟨t, ht, hfilled⟩ := sections_may_be_left_out hpath rfl
  exact ⟨_, t, rfl, ht, hfilled⟩

/-- **Specs are read back.** What is written for a spec is read as this spec, whatever unknown
members are added to its sections. -/
theorem decode_extended {s : Spec} {j : Json}
    (h : Outline.Variant false Spec.codec.outline (Spec.codec.encode s) j) :
    Spec.codec.decode j = .ok s := by
  have hkeeps : Spec.codec.Keeps s := Codec.Lossless.keeps (c := Spec.described.codec) s
  obtain ⟨t, ht, halike⟩ := (Spec.described_tolerates false).decode h hkeeps.decode_encode
  rw [halike.same rfl]
  exact ht

/-- A spec of which only what must be there is given. -/
def bare : Spec := { account := "acc", clusterName := "c", version := "1.0.0" }

/-- It may be written with a note in the probes of its monitor. -/
theorem decode_annotated :
    let probes := (HttpProbes.described.codec.encode {}).setMember "note" (.str "slow start")
    let monitor := (Monitor.described.codec.encode {}).setMember "probes" probes
    let basic := (Basic.described.codec.encode {}).setMember "monitor" monitor
    let components := (Components.described.codec.encode {}).setMember "basic" basic
    Spec.codec.decode ((Spec.codec.encode bare).setMember "components" components) = .ok bare := by
  refine decode_extended (.setMember rfl rfl rfl ?_)
  refine .setMember rfl rfl rfl (.setMember rfl rfl rfl (.setMember rfl rfl rfl ?_))
  exact .addMember rfl rfl

end Agent

end AgentOperator
