import AgentOperator.Proofs.Defaults
import AgentOperator.Proofs.Leftovers
import AgentOperator.Proofs.Selection
import Mathlib.Data.List.DropRight

/-!
AgentOperator.Proofs.Images — the references that images are pulled by.

A reference is a repository and a tag, with a registry in front if there is one. Filling in
leaves no repository empty, but the version of the agent, which stands for an empty tag, may
be empty itself, and a registry may start with a slash, or be nothing else. These are the
only ways to a reference that nothing can be pulled by (`images_usable_iff`), and a spec that
takes them is accepted (`accepted_unusable`).
-/

namespace AgentOperator.Workload

/-! ## References -/

def StartsWithSlash (text : String) : Prop := text.toList.head? = some '/'

instance (text : String) : Decidable (StartsWithSlash text) :=
  inferInstanceAs (Decidable (text.toList.head? = some '/'))

/-- The tag of an image, for which the version of the agent may stand. -/
def tagOf (image : Agent.Image) (version : String) : String :=
  if image.tag = "" then version else image.tag

/-- What stands in front of the repository. -/
def registryPart (registry : Option String) : String :=
  match registry.filter (· != "") with
  | some r => trimSlashes r ++ "/"
  | none => ""

theorem fullImage_eq (image : Agent.Image) (version : String) (registry : Option String) :
    fullImage image version registry
      = registryPart registry ++ image.repository ++ ":" ++ tagOf image version := by
  unfold fullImage registryPart tagOf
  cases registry.filter (· != "") <;> simp

theorem trimSlashes_toList (registry : String) :
    (trimSlashes registry).toList = registry.toList.rdropWhile (· = '/') :=
  String.toList_ofList

/-- A registry is cut at its end only, and the slash behind it takes the place of what was
cut. -/
theorem startsWithSlash_trimSlashes {registry : String} (h : registry ≠ "") (rest : String) :
    StartsWithSlash (trimSlashes registry ++ "/" ++ rest) ↔ StartsWithSlash registry := by
  have hne : registry.toList ≠ [] := by simpa using h
  simp only [StartsWithSlash, String.toList_append, trimSlashes_toList]
  cases htrim : registry.toList.rdropWhile (· = '/') with
  | nil =>
    have hall : ∀ c ∈ registry.toList, c = '/' := by
      simpa using List.rdropWhile_eq_nil_iff.1 htrim
    cases hregistry : registry.toList with
    | nil => exact absurd hregistry hne
    | cons c cs =>
      have hc : c = '/' := hall c (by simp [hregistry])
      simp [hc]
  | cons c cs =>
    obtain ⟨cut, hcut⟩ := htrim ▸ List.rdropWhile_prefix (· = '/') registry.toList
    simp [← hcut]

/-- A reference with its parts in their places, of which repository and tag are not empty,
and with no slash in front but the repository's own. -/
structure Usable (image : Agent.Image) (version reference : String) : Prop where
  parts : ∃ registry, (registry = "" ∨ ∃ host, registry = host ++ "/") ∧
    reference = registry ++ image.repository ++ ":" ++ tagOf image version
  repository_ne : image.repository ≠ ""
  tag_ne : tagOf image version ≠ ""
  slash : StartsWithSlash reference → StartsWithSlash image.repository

theorem startsWithSlash_append {text : String} (h : text ≠ "") (rest : String) :
    StartsWithSlash (text ++ rest) ↔ StartsWithSlash text := by
  have hne : text.toList ≠ [] := by simpa using h
  simp [StartsWithSlash, String.toList_append, List.head?_append_of_ne_nil _ hne]

theorem registryPart_shape (registry : Option String) :
    registryPart registry = "" ∨ ∃ host, registryPart registry = host ++ "/" := by
  unfold registryPart
  split
  · exact .inr ⟨_, rfl⟩
  · exact .inl rfl

/-- A slash in front of a reference is the registry's, or without a registry the
repository's. -/
theorem startsWithSlash_fullImage_iff {image : Agent.Image} (h : image.repository ≠ "")
    (version : String) (registry : Option String) :
    StartsWithSlash (fullImage image version registry) ↔
      match registry.filter (· != "") with
      | some r => StartsWithSlash r
      | none => StartsWithSlash image.repository := by
  unfold fullImage
  cases hregistry : registry.filter (· != "") with
  | some r =>
    have hne : r ≠ "" := by simpa using (Option.filter_eq_some_iff.1 hregistry).2
    simp only [String.append_assoc]
    rw [← String.append_assoc, startsWithSlash_trimSlashes hne]
  | none =>
    simp only [String.append_assoc]
    rw [startsWithSlash_append h]

theorem fullImage_usable_iff {image : Agent.Image} (h : image.repository ≠ "") (version : String)
    (registry : Option String) :
    Usable image version (fullImage image version registry) ↔
      tagOf image version ≠ "" ∧
        ∀ r ∈ registry, StartsWithSlash r → StartsWithSlash image.repository := by
  have hslash := startsWithSlash_fullImage_iff h version registry
  constructor
  · intro husable
    refine ⟨husable.tag_ne, ?_⟩
    intro r hr hstarts
    have hne : r ≠ "" := by
      intro hempty
      simp [hempty, StartsWithSlash] at hstarts
    have hfilter : registry.filter (· != "") = some r := by simp_all
    rw [hfilter] at hslash
    exact husable.slash (hslash.2 hstarts)
  · intro ⟨htag, hregistry⟩
    refine ⟨⟨_, registryPart_shape registry, fullImage_eq image version registry⟩, h, htag, ?_⟩
    intro hstarts
    cases hfilter : registry.filter (· != "") with
    | some r =>
      rw [hfilter] at hslash
      exact hregistry r (Option.filter_eq_some_iff.1 hfilter).1 (hslash.1 hstarts)
    | none =>
      rw [hfilter] at hslash
      exact hslash.1 hstarts

end AgentOperator.Workload

namespace AgentOperator.Dataplane

open Kube (Container Object)
open Workload

variable {c : Component} {s : Surroundings} {spec given : Agent.Spec} {o o₁ : Object}

/-! ## The images of a workload -/

/-- The part of a spec that a workload's container is for. -/
def Component.partOf (c : Component) (container : String) : Agent.Part :=
  match c with
  | .monitor => .monitor
  | .enforcer => .enforcer
  | .stateReporter => .stateReporter
  | .resolver => .resolver
  | .imageScanningReporter => .imageScanningReporter
  | _ => if container = sensorContainerName then .sensor else .clusterScanner

theorem Component.deploymentPlan?_image {nodes : Option UInt64} {p : DeploymentPlan}
    (hp : c.deploymentPlan? nodes spec = some p) (container : String) :
    p.container.image = (c.partOf container).image spec := by
  cases c <;> simp only [deploymentPlan?, Option.some.injEq, reduceCtorEq] at hp <;>
    subst hp <;> rfl

theorem withAgent_image {k : Container} (hk : k.name ∈ wantedContainers spec) :
    (withAgent spec k).image
      = some (fullImage ((Component.nodeAgent.partOf k.name).image spec) spec.version
          spec.components.settings.defaultImagesRegistry) := by
  have hne : ¬ scannerContainerName = sensorContainerName := by decide
  unfold withAgent Component.partOf
  rcases (mem_wantedContainers_iff spec k.name).1 hk with ⟨h, -⟩ | ⟨h, -⟩
  · simp only [h, if_true, withSensor_eq, sensorSettled, Agent.Part.image]
  · simp only [h, if_neg hne, if_true, withScanner_eq, scannerSettled, Agent.Part.image]

/-- Every container of a workload has the image of its part of the spec. -/
theorem Component.Change.image_eq (hc : c.IsWorkload) (h : Component.Change s spec c o o₁)
    {k : Container} (hk : k ∈ o₁.pod.containers) :
    k.image = some (fullImage ((c.partOf k.name).image spec) spec.version
      spec.components.settings.defaultImagesRegistry) := by
  cases h with
  | @deployment _ d p hp =>
    have hproper := Component.deploymentPlan?_proper hp
    obtain ⟨change, hsecure, -⟩ := hproper.container.secure_settles
    have hpod : podOf (p.apply spec d) = p.applyPod spec (podOf d) := rfl
    rw [Object.pod_deployment, hpod, DeploymentPlan.applyPod_eq hproper.volumes_ne_nil,
      List.mem_singleton] at hk
    rw [← Component.deploymentPlan?_image hp, hk, DeploymentPlan.settledContainer,
      ContainerPlan.apply_eq spec hproper.container.mounts_ne_nil hsecure]
    rfl
  | nodeAgent d =>
    rw [pod_withNodeAgent_containers] at hk
    obtain ⟨stored, hstored, rfl⟩ := List.mem_map.1 hk
    have hwanted := (complete_selectContainers (wantedContainers spec) _).mem_wanted
      (wantedContainers_nodup spec) hstored
    rw [withAgent_name, withAgent_image hwanted]
  | service d hp =>
    rw [hc.servicePlan?_eq_none] at hp
    cases hp
  | _ => exact absurd hc (by simp [IsWorkload, kind])

/-- **When images can be pulled.** Filling in leaves no container of a workload without an
image, and each is one that can be pulled if and only if its tag and the version of the agent
are not both empty and the registry starts with a slash only where the repository does. -/
theorem images_usable_iff (hc : c.IsWorkload) (h : c.mutate s given.withDefaults o = .ok o₁) :
    ∀ k ∈ o₁.pod.containers, ∃ reference, k.image = some reference ∧
      (Usable ((c.partOf k.name).image given.withDefaults) given.version reference ↔
        tagOf ((c.partOf k.name).image given) given.version ≠ "" ∧
          ∀ registry ∈ given.components.settings.defaultImagesRegistry,
            StartsWithSlash registry →
              StartsWithSlash ((c.partOf k.name).image given.withDefaults).repository) := by
  intro k hk
  have himage := (c.change_of_mutate h).image_eq hc hk
  refine ⟨_, himage, ?_⟩
  have hrepository := given.withDefaults_complete.repository (c.partOf k.name)
  rw [Agent.Part.image_withDefaults] at hrepository ⊢
  exact fullImage_usable_iff hrepository given.version _

/-- A spec that says which version is to be pulled from where, and leaves the rest open. -/
def pulledFrom (registry version : String) : Agent.Spec :=
  { account := "acc"
    clusterName := "c"
    version
    components := { settings := { defaultImagesRegistry := some registry } } }

theorem exists_monitor (spec : Agent.Spec) :
    ∃ o₁ k, Component.monitor.mutate {} spec (.deployment {}) = .ok o₁ ∧ k ∈ o₁.pod.containers ∧
      k.image = some (fullImage spec.components.basic.monitor.image spec.version
        spec.components.settings.defaultImagesRegistry) := by
  have h : Component.Change {} spec .monitor (.deployment {}) _ := .deployment {} rfl
  have hplan : Component.monitor.deploymentPlan? none spec = some (monitorPlan spec) := rfl
  have hproper := Component.deploymentPlan?_proper hplan
  have hk : (monitorPlan spec).settledContainer spec []
      ∈ (Object.deployment ((monitorPlan spec).apply spec {})).pod.containers := by
    have hpod : podOf ((monitorPlan spec).apply spec {})
        = (monitorPlan spec).applyPod spec (podOf {}) := rfl
    rw [Object.pod_deployment, hpod, DeploymentPlan.applyPod_eq hproper.volumes_ne_nil]
    exact List.mem_singleton_self _
  exact ⟨_, _, h.mutate, hk, h.image_eq (.inl rfl) hk⟩

/-- A slash at the end of a registry does no harm. -/
theorem images_usable_monitor :
    Component.monitor.IsWorkload ∧
      let spec := pulledFrom "registry.example.com/" "1.0.0"
      ∃ o₁ k reference,
        Component.monitor.mutate {} spec.withDefaults (.deployment {}) = .ok o₁ ∧
        k ∈ o₁.pod.containers ∧ k.image = some reference ∧
        Usable spec.withDefaults.components.basic.monitor.image "1.0.0" reference := by
  refine ⟨.inl rfl, ?_⟩
  intro spec
  obtain ⟨o₁, k, hmutate, hk, -⟩ := exists_monitor spec.withDefaults
  obtain ⟨reference, himage, husable⟩ := images_usable_iff (.inl rfl) hmutate k hk
  have htag : tagOf spec.components.basic.monitor.image spec.version ≠ "" := by decide
  have hregistry : ¬ StartsWithSlash "registry.example.com/" := by decide
  refine ⟨o₁, k, reference, hmutate, hk, himage, husable.2 ⟨htag, ?_⟩⟩
  intro registry hgiven hstarts
  cases hgiven
  exact absurd hstarts hregistry

/-- The spec is accepted, but no monitor can be pulled by the reference it is given. -/
def PulledInVain (spec : Agent.Spec) (reference : String) : Prop :=
  spec.withDefaults.validate = .ok () ∧ ∃ o₁ k,
    Component.monitor.mutate {} spec.withDefaults (.deployment {}) = .ok o₁ ∧
    k ∈ o₁.pod.containers ∧ k.image = some reference ∧
    ¬ Usable spec.withDefaults.components.basic.monitor.image spec.version reference

theorem pulledInVain_of_fault {reference : String} (haccepted : spec.withDefaults.validate = .ok ())
    (hreference : fullImage spec.withDefaults.components.basic.monitor.image spec.version
      spec.components.settings.defaultImagesRegistry = reference)
    (hfault : tagOf spec.withDefaults.components.basic.monitor.image spec.version = "" ∨
      StartsWithSlash reference ∧
        ¬ StartsWithSlash spec.withDefaults.components.basic.monitor.image.repository) :
    PulledInVain spec reference := by
  obtain ⟨o₁, k, hmutate, hk, himage⟩ := exists_monitor spec.withDefaults
  refine ⟨haccepted, o₁, k, hmutate, hk, ?_, ?_⟩
  · rw [himage]
    exact congrArg some hreference
  · intro husable
    rcases hfault with htag | ⟨hstarts, hrepository⟩
    · exact husable.tag_ne htag
    · exact hrepository (husable.slash hstarts)

/-- A registry that is only a slash leaves it in front, and an empty version leaves an empty
tag. -/
theorem accepted_unusable :
    PulledInVain (pulledFrom "/" "1.0.0") "/cbartifactory/monitor:1.0.0" ∧
      PulledInVain (pulledFrom "registry.example.com" "")
        "registry.example.com/cbartifactory/monitor:" := by
  constructor
  · exact pulledInVain_of_fault (by decide) (by decide) (by decide)
  · exact pulledInVain_of_fault (by decide) (by decide) (by decide)

end AgentOperator.Dataplane
