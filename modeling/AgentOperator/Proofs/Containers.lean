import AgentOperator.Dataplane.Plan
import AgentOperator.Proofs.NamedLists

/-!
AgentOperator.Proofs.Containers — what is written into a container, member by
member.

Every function that changes a container touches members of its own. Each is
restated here as a change of those members (`withResources_eq`, `withEnv_eq`,
…), and each change of a member is shown to do nothing the second time. Since
the members are different ones, a whole plan can then be judged member by
member: it does nothing the second time exactly when the mounts of the
container were not stray (`ContainerPlan.apply_apply_iff`).
-/

namespace AgentOperator.Workload

open Kube (Container ContainerPort EnvVar Probe Quantity ResourceRequirements SecurityContext)

/-! ## Resources -/

/-- The resources a container is left with. -/
def settledResources (desired : ResourceRequirements) (r : Option ResourceRequirements) :
    Option ResourceRequirements :=
  if hasResources desired { resources := r } then r
  else
    some
      { r.getD {} with
        limits := desired.limits.filter (!·.isEmpty)
        requests := desired.requests.filter (!·.isEmpty) }

theorem withResources_eq (desired : ResourceRequirements) (c : Container) :
    withResources desired c = { c with resources := settledResources desired c.resources } := by
  have hsame : hasResources desired c = hasResources desired { resources := c.resources } := rfl
  rw [withResources, settledResources, hsame]
  split <;> rfl

/-- Whether the resources written the first time compare as equal does not
matter: if they do not, they are written again as they are. -/
theorem settledResources_settled (desired : ResourceRequirements)
    (r : Option ResourceRequirements) :
    settledResources desired (settledResources desired r) = settledResources desired r := by
  by_cases h : hasResources desired { resources := r }
  · have hkeep : settledResources desired r = r := by rw [settledResources, if_pos h]
    rw [hkeep, hkeep]
  · have hwrite : settledResources desired r = some
        { r.getD {} with
          limits := desired.limits.filter (!·.isEmpty)
          requests := desired.requests.filter (!·.isEmpty) } := by
      rw [settledResources, if_neg h]
    rw [hwrite, settledResources]
    split <;> rfl

/-! ## Environment -/

/-- The variables a container is left with. -/
def settledEnv (e : Env) (vars : Option (List EnvVar)) : Option (List EnvVar) :=
  if e.matchesVars (vars.getD []) then vars else Keyed.unlessEmpty e.build

theorem withEnv_eq (e : Env) (c : Container) :
    withEnv e c = { c with env := settledEnv e c.env } := by
  simp only [withEnv, settledEnv]
  split <;> rfl

theorem settledEnv_settled (e : Env) (vars : Option (List EnvVar)) :
    settledEnv e (settledEnv e vars) = settledEnv e vars := by
  by_cases h : e.matchesVars (vars.getD [])
  · have hkeep : settledEnv e vars = vars := by simp only [settledEnv, if_pos h]
    rw [hkeep, hkeep]
  · have hwrite : settledEnv e vars = Keyed.unlessEmpty e.build := by
      simp only [settledEnv, if_neg h]
    rw [hwrite, settledEnv]
    split <;> rfl

/-! ## Probes -/

/-- An HTTP probe written twice is one written once: the handlers that give way
to it are gone, and of its own only the members written anew have changed. -/
theorem httpProbe_httpProbe (path : String) (probes : Agent.HttpProbes) (p : Probe) :
    httpProbe path probes (httpProbe path probes p) = httpProbe path probes p := by
  cases h : p.httpGet <;> simp [httpProbe, withTiming, h]

theorem fileProbe_fileProbe (path : String) (timing : Agent.ProbeTiming) (p : Probe) :
    fileProbe path timing (fileProbe path timing p) = fileProbe path timing p := by
  cases h : p.exec <;> simp [fileProbe, withTiming, h]

/-! ## Ports -/

/-- The port that is kept: the only one if it has the name, or else a fresh
one. -/
def keptPort (name : String) (ports : Option (List ContainerPort)) : ContainerPort :=
  match ports with
  | some [p] => if namedPort name p then p else { name := some name }
  | _ => { name := some name }

/-- The only port of a container, of a given name. -/
def settledPort (name : String) (port : Int32) (ports : Option (List ContainerPort)) :
    ContainerPort :=
  { keptPort name ports with containerPort := port, protocol := some "TCP" }

theorem withSinglePort_eq (name : String) (port : Int32) (c : Container) :
    withSinglePort name port c = { c with ports := some [settledPort name port c.ports] } := by
  unfold withSinglePort settledPort keptPort
  rcases hports : c.ports with _ | _ | ⟨p, _ | _⟩
  · rfl
  · rfl
  · by_cases hp : namedPort name p <;>
      simp [hp, withPort, withoutPorts, Keyed.upsert, hports]
  · rfl

theorem keptPort_name (name : String) (ports : Option (List ContainerPort)) :
    (keptPort name ports).name = some name := by
  unfold keptPort
  split
  · rename_i p
    by_cases hp : namedPort name p
    · rw [if_pos hp]
      simpa [namedPort] using hp
    · rw [if_neg hp]
  · rfl

theorem settledPort_settled (name : String) (port : Int32) (ports : Option (List ContainerPort)) :
    settledPort name port (some [settledPort name port ports]) = settledPort name port ports := by
  have hkept : keptPort name (some [settledPort name port ports])
      = settledPort name port ports := by
    have hname : (settledPort name port ports).name = some name := keptPort_name name ports
    simp [keptPort, namedPort, hname]
  show { keptPort name (some [settledPort name port ports]) with
    containerPort := port, protocol := some "TCP" } = settledPort name port ports
  rw [hkept]
  rfl

/-! ## Security -/

/-- A change of security settings that does nothing the second time. -/
def Settles (change : SecurityContext → SecurityContext) : Prop :=
  ∀ s, change (change s) = change s

/-! ## Mounts -/

/-- Mounts are told apart by the volume they show. -/
def mountNaming : Keyed.Naming Kube.VolumeMount where
  key := (·.name)
  fresh name := { name }
  key_fresh _ := rfl

end AgentOperator.Workload

namespace AgentOperator.Dataplane

open Kube (Container SecurityContext)
open Workload

/-- What a mount of the plan writes. -/
def MountPlan.entry (m : MountPlan) : Keyed.Entry mountNaming where
  name := m.volume
  change x := { x with mountPath := m.path, readOnly := some m.readOnly }
  key_change _ := rfl
  change_change _ := rfl

@[simp] theorem MountPlan.entry_name (m : MountPlan) : m.entry.name = m.volume := rfl

/-- The mounts a container is left with by a plan that has some. -/
def settledMounts (plans : List MountPlan) (mounts : Option (List Kube.VolumeMount)) :
    List Kube.VolumeMount :=
  Keyed.settle (plans.map MountPlan.entry) (mounts.getD [])

theorem MountPlan.foldl_withMount (m : MountPlan) (plans : List MountPlan) (c : Container) :
    (m :: plans).foldl (fun c m => withMount m.volume m.path m.readOnly c) c
      = { c with
          volumeMounts :=
            some (Keyed.writeAll ((m :: plans).map entry) (c.volumeMounts.getD [])) } := by
  induction plans generalizing m c with
  | nil => rfl
  | cons n plans ih =>
    rw [List.foldl_cons, ih]
    rfl

theorem MountPlan.applyAll_eq {plans : List MountPlan} (h : plans ≠ []) (c : Container) :
    MountPlan.applyAll plans c
      = { c with volumeMounts := some (settledMounts plans c.volumeMounts) } := by
  obtain ⟨m, plans, rfl⟩ := List.exists_cons_of_ne_nil h
  rw [applyAll, MountPlan.foldl_withMount, settledMounts, Keyed.settle, resetMountsUnless,
    List.length_map]
  split <;> rfl

theorem MountPlan.map_entry_name (plans : List MountPlan) :
    (plans.map entry).map (·.name) = plans.map (·.volume) := by
  rw [List.map_map]
  rfl

theorem settledMounts_settled_iff {plans : List MountPlan} (h : (plans.map (·.volume)).Nodup)
    (mounts : Option (List Kube.VolumeMount)) :
    settledMounts plans (some (settledMounts plans mounts)) = settledMounts plans mounts
      ↔ ¬ mountNaming.Stray (plans.map (·.volume)) (mounts.getD []) := by
  have := Keyed.settle_settle_iff (plans.map MountPlan.entry)
    (MountPlan.map_entry_name plans ▸ h) (mounts.getD [])
  rwa [MountPlan.map_entry_name] at this

/-! ## Container plans -/

/-- A plan with mounts, all of different volumes, and with security settings
that are settled by writing them once. -/
structure ContainerPlan.Proper (p : ContainerPlan) : Prop where
  mounts_ne_nil : p.mounts ≠ []
  mounts_nodup : (p.mounts.map (·.volume)).Nodup
  secure_settles : ∃ change, p.secure = withSecurity change ∧ Settles change

/-- Whether the container's mounts are as many as the plan's, but of other
volumes. -/
def ContainerPlan.Stray (p : ContainerPlan) (c : Container) : Prop :=
  mountNaming.Stray (p.mounts.map (·.volume)) (c.volumeMounts.getD [])

instance (p : ContainerPlan) (c : Container) : Decidable (p.Stray c) :=
  inferInstanceAs (Decidable (mountNaming.Stray _ _))

/-- What a plan does to a container besides its mounts. -/
def ContainerPlan.settled (p : ContainerPlan) (spec : Agent.Spec)
    (change : SecurityContext → SecurityContext) (c : Container) : Container :=
  { c with
    resources := settledResources p.resources c.resources
    env := settledEnv (.ofSources p.env) c.env
    image :=
      some (fullImage p.image spec.version spec.components.settings.defaultImagesRegistry)
    imagePullPolicy := some p.image.pullPolicy
    readinessProbe := match p.probes with
      | some probes => some (httpProbe probes.readinessPath probes (c.readinessProbe.getD {}))
      | none => c.readinessProbe
    livenessProbe := match p.probes with
      | some probes => some (httpProbe probes.livenessPath probes (c.livenessProbe.getD {}))
      | none => c.livenessProbe
    securityContext := some (change (c.securityContext.getD {}))
    ports := match p.port with
      | some (name, port) => some [settledPort name port c.ports]
      | none => c.ports }

theorem ContainerPlan.settled_settled (p : ContainerPlan) (spec : Agent.Spec)
    {change : SecurityContext → SecurityContext} (h : Settles change) (c : Container) :
    p.settled spec change (p.settled spec change c) = p.settled spec change c := by
  simp only [settled, settledResources_settled, settledEnv_settled, Option.getD_some, h _]
  cases p.probes <;> cases p.port <;>
    simp only [Option.getD_some, httpProbe_httpProbe, settledPort_settled]

theorem ContainerPlan.apply_eq {p : ContainerPlan} (spec : Agent.Spec)
    {change : SecurityContext → SecurityContext} (hne : p.mounts ≠ [])
    (h : p.secure = withSecurity change) (c : Container) :
    p.apply spec c
      = { p.settled spec change c with
          volumeMounts := some (settledMounts p.mounts c.volumeMounts) } := by
  simp only [apply, settled, MountPlan.applyAll_eq hne, withResources_eq, withEnv_eq, withImage, h,
    withSecurity]
  cases p.probes <;> cases p.port <;> simp only [withHttpProbes, withSinglePort_eq]

/-- Carrying a plan out a second time changes nothing exactly when the mounts
were not stray. -/
theorem ContainerPlan.apply_apply_iff {p : ContainerPlan} (hp : p.Proper) (spec : Agent.Spec)
    (c : Container) : p.apply spec (p.apply spec c) = p.apply spec c ↔ ¬ p.Stray c := by
  obtain ⟨change, hsecure, hchange⟩ := hp.secure_settles
  have hmounts := settledMounts_settled_iff hp.mounts_nodup c.volumeMounts
  have hrest := p.settled_settled spec hchange c
  rw [Stray, ← hmounts, apply_eq spec hp.mounts_ne_nil hsecure,
    apply_eq spec hp.mounts_ne_nil hsecure]
  constructor
  · intro h
    simpa using congrArg Container.volumeMounts h
  · intro h
    rw [h]
    exact congrArg (fun d : Container => { d with
      volumeMounts := some (settledMounts p.mounts c.volumeMounts) }) hrest

/-- A plan keeps the name of the container. -/
theorem ContainerPlan.apply_name {p : ContainerPlan} (hp : p.Proper) (spec : Agent.Spec)
    (c : Container) : (p.apply spec c).name = c.name := by
  obtain ⟨change, hsecure, -⟩ := hp.secure_settles
  rw [apply_eq spec hp.mounts_ne_nil hsecure]
  rfl

end AgentOperator.Dataplane
