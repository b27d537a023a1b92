import AgentOperator.Agent.Defaults

/-!
AgentOperator.Proofs.Defaults — what filling in a spec keeps, and what it leaves open.

A spec is filled in slot by slot: a text, a port, an entry of a list of resources, the list of
tolerations. A slot that is open gets its default and any other stays as it is, so a second
time there is nothing left to do (`stringOr_stringOr`, `Amounts.get?_fill`). The slots are
those of the seven components that run an image (`Part`), the paths of CRI-O and the
tolerations, and `Spec.blank` opens them all, which leaves to compare what is never filled
in. The main result is `withDefaults_stable`.
-/

namespace AgentOperator.Agent

open Kube (Quantity ResourceRequirements)

/-! ## Texts, ports and tolerations -/

theorem stringOr_of_ne {value : String} (h : value ≠ "") (fallback : String) :
    stringOr value fallback = value :=
  if_neg h

theorem stringOr_ne {fallback : String} (h : fallback ≠ "") (value : String) :
    stringOr value fallback ≠ "" := by
  by_cases hv : value = ""
  · rwa [hv]
  · rwa [stringOr_of_ne hv]

@[simp] theorem stringOr_stringOr (value fallback : String) :
    stringOr (stringOr value fallback) fallback = stringOr value fallback := by
  by_cases hv : value = ""
  · subst hv
    exact ite_self fallback
  · rw [stringOr_of_ne hv, stringOr_of_ne hv]

theorem Prometheus.port_withDefaults_of_ne {p : Prometheus} (h : p.port ≠ 0) (port : Int32) :
    (p.withDefaults port).port = p.port :=
  if_neg h

theorem Prometheus.port_withDefaults_ne {port : Int32} (h : port ≠ 0) (p : Prometheus) :
    (p.withDefaults port).port ≠ 0 := by
  by_cases hp : p.port = 0
  · rwa [Prometheus.withDefaults, if_pos hp]
  · rwa [port_withDefaults_of_ne hp]

@[simp] theorem Prometheus.withDefaults_withDefaults (p : Prometheus) (port : Int32) :
    (p.withDefaults port).withDefaults port = p.withDefaults port := by
  by_cases hp : p.port = 0
  · simp only [Prometheus.withDefaults, if_pos hp, ite_self]
  · simp only [Prometheus.withDefaults, if_neg hp]

@[simp] theorem Image.withDefaults_withDefaults (i : Image) (repository : String) :
    (i.withDefaults repository).withDefaults repository = i.withDefaults repository := by
  simp only [Image.withDefaults, stringOr_stringOr]

@[simp] theorem CrioPaths.withDefaults_withDefaults (c : CrioPaths) :
    c.withDefaults.withDefaults = c.withDefaults := by
  simp only [CrioPaths.withDefaults, stringOr_stringOr]

@[simp] theorem Settings.withDefaults_withDefaults (s : Settings) :
    s.withDefaults.withDefaults = s.withDefaults := by
  by_cases hs : s.daemonSetsTolerations.isEmpty
  · simp [Settings.withDefaults, hs]
  · simp [Settings.withDefaults, hs]

theorem Settings.tolerations_withDefaults_ne (s : Settings) :
    s.withDefaults.daemonSetsTolerations ≠ [] := by
  cases h : s.daemonSetsTolerations with
  | nil => simp [Settings.withDefaults, h]
  | cons t ts => simp [Settings.withDefaults, h]

/-! ## Resources -/

/-- The entries of a list of resources that may be left out. -/
def listed (list : Option (Dict Quantity)) : Dict Quantity := list.getD ∅

/-- The amount for a kind of resource. -/
def Amounts.get? (a : Amounts) (kind : String) : Option Quantity :=
  if kind = "memory" then some ⟨a.memory⟩
  else if kind = "cpu" then some ⟨a.cpu⟩
  else none

theorem get?_addMissing (list : Dict Quantity) (name text k : String) :
    (addMissing list name text).get? k
      = (list.get? k).or (if k = name then some ⟨text⟩ else none) := by
  by_cases hk : k = name
  · subst hk
    cases h : list.get? k with
    | none => simp [addMissing, Dict.contains, h]
    | some q => simp [addMissing, Dict.contains, h]
  · rw [if_neg hk, Option.or_none, addMissing]
    split
    · rfl
    · rw [Dict.get?_insert, if_neg (Ne.symm hk)]

/-- Of what is filled in, the entries that are given come before the amounts. -/
theorem Amounts.get?_fill (a : Amounts) (list : Option (Dict Quantity)) (kind : String) :
    (listed (a.fill list)).get? kind = ((listed list).get? kind).or (a.get? kind) := by
  show (addMissing (addMissing (listed list) "memory" a.memory) "cpu" a.cpu).get? kind = _
  rw [get?_addMissing, get?_addMissing, Option.or_assoc, Amounts.get?]
  by_cases hmemory : kind = "memory" <;> simp [hmemory]

example : listed (smallLimit.fill (some (.ofList [("memory", ⟨"1Gi"⟩)])))
    = .ofList [("cpu", ⟨"200m"⟩), ("memory", ⟨"1Gi"⟩)] := by
  decide

@[simp] theorem Amounts.fill_fill (a : Amounts) (list : Option (Dict Quantity)) :
    a.fill (a.fill list) = a.fill list := by
  have hlisted : listed (a.fill (a.fill list)) = listed (a.fill list) := by
    refine Dict.ext_get? fun kind => ?_
    rw [a.get?_fill, a.get?_fill, Option.or_assoc, Option.or_self]
  exact congrArg some hlisted

@[simp] theorem resourcesWithDefaults_resourcesWithDefaults (r : ResourceRequirements)
    (requests limits : Amounts) :
    resourcesWithDefaults (resourcesWithDefaults r requests limits) requests limits
      = resourcesWithDefaults r requests limits := by
  simp only [resourcesWithDefaults, Amounts.fill_fill]

/-- The kinds of resources that are filled in. -/
def filledKinds : List String := ["memory", "cpu"]

/-- A list of resources that has every entry of a given one, and of the kinds that are not
filled in no other. -/
structure KeepsEntries (list given : Option (Dict Quantity)) : Prop where
  kept : ∀ kind q, (listed given).get? kind = some q → (listed list).get? kind = some q
  other : ∀ kind, kind ∉ filledKinds → (listed list).get? kind = (listed given).get? kind

theorem Amounts.fill_keepsEntries (a : Amounts) (list : Option (Dict Quantity)) :
    KeepsEntries (a.fill list) list where
  kept kind q h := by rw [a.get?_fill, h, Option.some_or]
  other kind h := by
    simp only [filledKinds, List.mem_cons, List.not_mem_nil, or_false, not_or] at h
    rw [a.get?_fill, Amounts.get?, if_neg h.1, if_neg h.2, Option.or_none]

theorem Amounts.contains_fill (a : Amounts) (list : Option (Dict Quantity)) :
    ∀ kind ∈ filledKinds, (listed (a.fill list)).contains kind := by
  intro kind hkind
  have hamount : (a.get? kind).isSome := by
    simp only [filledKinds, List.mem_cons, List.not_mem_nil, or_false] at hkind
    rcases hkind with rfl | rfl <;> rfl
  rw [Dict.contains, a.get?_fill, Option.isSome_or, hamount, Bool.or_true]

/-! ## Components -/

/-- The components that run an image of their own. -/
inductive Part where
  | monitor
  | enforcer
  | stateReporter
  | resolver
  | sensor
  | imageScanningReporter
  | clusterScanner
deriving DecidableEq

namespace Part

def image (s : Spec) : Part → Image
  | .monitor => s.components.basic.monitor.image
  | .enforcer => s.components.basic.enforcer.image
  | .stateReporter => s.components.basic.stateReporter.image
  | .resolver => s.components.runtimeProtection.resolver.image
  | .sensor => s.components.runtimeProtection.sensor.image
  | .imageScanningReporter => s.components.clusterScanning.imageScanningReporter.image
  | .clusterScanner => s.components.clusterScanning.clusterScanner.image

def resources (s : Spec) : Part → ResourceRequirements
  | .monitor => s.components.basic.monitor.resources
  | .enforcer => s.components.basic.enforcer.resources
  | .stateReporter => s.components.basic.stateReporter.resources
  | .resolver => s.components.runtimeProtection.resolver.resources
  | .sensor => s.components.runtimeProtection.sensor.resources
  | .imageScanningReporter => s.components.clusterScanning.imageScanningReporter.resources
  | .clusterScanner => s.components.clusterScanning.clusterScanner.resources

/-- The metrics of those components that export any. -/
def prometheus? (s : Spec) : Part → Option Prometheus
  | .monitor => none
  | .enforcer => some s.components.basic.enforcer.prometheus
  | .stateReporter => none
  | .resolver => some s.components.runtimeProtection.resolver.prometheus
  | .sensor => some s.components.runtimeProtection.sensor.prometheus
  | .imageScanningReporter => some s.components.clusterScanning.imageScanningReporter.prometheus
  | .clusterScanner => some s.components.clusterScanning.clusterScanner.prometheus

/-- What a component has where the user left it open. -/
structure Defaults where
  repository : String
  requests : Amounts
  limits : Amounts

def defaults : Part → Defaults
  | .monitor => ⟨"cbartifactory/monitor", smallRequest, smallLimit⟩
  | .enforcer => ⟨"cbartifactory/guardrails-enforcer", smallRequest, smallLimit⟩
  | .stateReporter => ⟨"cbartifactory/guardrails-state-reporter", smallRequest, smallLimit⟩
  | .resolver => ⟨"cbartifactory/runtime-kubernetes-resolver", serverRequest, serverLimit⟩
  | .sensor => ⟨"cbartifactory/runtime-kubernetes-sensor", smallRequest, sensorLimit⟩
  | .imageScanningReporter => ⟨"cbartifactory/image-scanning-reporter", serverRequest, serverLimit⟩
  | .clusterScanner => ⟨"cbartifactory/cluster-scanner", smallRequest, scannerLimit⟩

/-- The port that a component exports its metrics on where the user left it open. -/
def port : Part → Int32
  | .clusterScanner => scannerMetricsPort
  | _ => metricsPort

theorem repository_ne (p : Part) : p.defaults.repository ≠ "" := by cases p <;> decide

theorem port_ne (p : Part) : p.port ≠ 0 := by cases p <;> decide

theorem image_withDefaults (p : Part) (s : Spec) :
    p.image s.withDefaults = (p.image s).withDefaults p.defaults.repository := by
  cases p <;> rfl

theorem resources_withDefaults (p : Part) (s : Spec) :
    p.resources s.withDefaults
      = resourcesWithDefaults (p.resources s) p.defaults.requests p.defaults.limits := by
  cases p <;> rfl

theorem prometheus?_withDefaults (p : Part) (s : Spec) :
    p.prometheus? s.withDefaults = (p.prometheus? s).map (·.withDefaults p.port) := by
  cases p <;> rfl

end Part

/-! ## Specs -/

def Image.blank (i : Image) : Image := { i with repository := "", pullPolicy := "" }

def Prometheus.blank (p : Prometheus) : Prometheus := { p with port := 0 }

def blankResources (r : ResourceRequirements) : ResourceRequirements :=
  { r with requests := none, limits := none }

def Monitor.blank (m : Monitor) : Monitor :=
  { m with image := m.image.blank, resources := blankResources m.resources }

def Enforcer.blank (e : Enforcer) : Enforcer :=
  { e with
    image := e.image.blank
    resources := blankResources e.resources
    prometheus := e.prometheus.blank }

def StateReporter.blank (r : StateReporter) : StateReporter :=
  { r with image := r.image.blank, resources := blankResources r.resources }

def Resolver.blank (r : Resolver) : Resolver :=
  { r with
    image := r.image.blank
    resources := blankResources r.resources
    prometheus := r.prometheus.blank }

def Sensor.blank (s : Sensor) : Sensor :=
  { s with
    image := s.image.blank
    resources := blankResources s.resources
    prometheus := s.prometheus.blank }

def ImageScanningReporter.blank (r : ImageScanningReporter) : ImageScanningReporter :=
  { r with
    image := r.image.blank
    resources := blankResources r.resources
    prometheus := r.prometheus.blank }

def ClusterScanner.blank (s : ClusterScanner) : ClusterScanner :=
  { s with
    image := s.image.blank
    resources := blankResources s.resources
    prometheus := s.prometheus.blank
    k8sContainerEngine := { s.k8sContainerEngine with crio := {} } }

def Components.blank (c : Components) : Components where
  basic :=
    { monitor := c.basic.monitor.blank
      enforcer := c.basic.enforcer.blank
      stateReporter := c.basic.stateReporter.blank }
  runtimeProtection :=
    { c.runtimeProtection with
      resolver := c.runtimeProtection.resolver.blank
      sensor := c.runtimeProtection.sensor.blank }
  clusterScanning :=
    { c.clusterScanning with
      imageScanningReporter := c.clusterScanning.imageScanningReporter.blank
      clusterScanner := c.clusterScanning.clusterScanner.blank }
  settings := { c.settings with daemonSetsTolerations := [] }

/-- The spec with everything open that can be filled in. -/
def Spec.blank (s : Spec) : Spec := { s with components := s.components.blank }

/-- The paths of CRI-O on the scanned nodes. -/
def Spec.crioPaths (s : Spec) : CrioPaths :=
  s.components.clusterScanning.clusterScanner.k8sContainerEngine.crio

def Spec.tolerations (s : Spec) : List Kube.Toleration := s.components.settings.daemonSetsTolerations

/-- Every choice that was made in a given spec is kept: what was not left open, and all that
is never filled in. -/
structure Spec.Keeps (s given : Spec) : Prop where
  repository (p : Part) : (p.image given).repository ≠ "" →
    (p.image s).repository = (p.image given).repository
  pullPolicy (p : Part) : (p.image given).pullPolicy ≠ "" →
    (p.image s).pullPolicy = (p.image given).pullPolicy
  requests (p : Part) : KeepsEntries (p.resources s).requests (p.resources given).requests
  limits (p : Part) : KeepsEntries (p.resources s).limits (p.resources given).limits
  port (p : Part) : ∀ m ∈ p.prometheus? given, m.port ≠ 0 →
    (p.prometheus? s).map (·.port) = some m.port
  storagePath : given.crioPaths.storagePath ≠ "" →
    s.crioPaths.storagePath = given.crioPaths.storagePath
  storageConfigPath : given.crioPaths.storageConfigPath ≠ "" →
    s.crioPaths.storageConfigPath = given.crioPaths.storageConfigPath
  configPath : given.crioPaths.configPath ≠ "" →
    s.crioPaths.configPath = given.crioPaths.configPath
  tolerations : given.tolerations ≠ [] → s.tolerations = given.tolerations
  blank : s.blank = given.blank

/-- Nothing is left open. -/
structure Spec.Complete (s : Spec) : Prop where
  repository (p : Part) : (p.image s).repository ≠ ""
  pullPolicy (p : Part) : (p.image s).pullPolicy ≠ ""
  requests (p : Part) : ∀ kind ∈ filledKinds, (listed (p.resources s).requests).contains kind
  limits (p : Part) : ∀ kind ∈ filledKinds, (listed (p.resources s).limits).contains kind
  port (p : Part) : ∀ m ∈ p.prometheus? s, m.port ≠ 0
  storagePath : s.crioPaths.storagePath ≠ ""
  storageConfigPath : s.crioPaths.storageConfigPath ≠ ""
  configPath : s.crioPaths.configPath ≠ ""
  tolerations : s.tolerations ≠ []

theorem Spec.withDefaults_withDefaults (s : Spec) :
    s.withDefaults.withDefaults = s.withDefaults := by
  simp only [Spec.withDefaults, Components.withDefaults, Monitor.withDefaults,
    Enforcer.withDefaults, StateReporter.withDefaults, Resolver.withDefaults,
    Sensor.withDefaults, ImageScanningReporter.withDefaults, ClusterScanner.withDefaults,
    Image.withDefaults_withDefaults, Prometheus.withDefaults_withDefaults,
    resourcesWithDefaults_resourcesWithDefaults, CrioPaths.withDefaults_withDefaults,
    Settings.withDefaults_withDefaults]

theorem Spec.withDefaults_keeps (s : Spec) : s.withDefaults.Keeps s where
  repository p h := by rw [p.image_withDefaults]; exact stringOr_of_ne h _
  pullPolicy p h := by rw [p.image_withDefaults]; exact stringOr_of_ne h _
  requests p := by rw [p.resources_withDefaults]; exact p.defaults.requests.fill_keepsEntries _
  limits p := by rw [p.resources_withDefaults]; exact p.defaults.limits.fill_keepsEntries _
  port p m hm h := by
    rw [p.prometheus?_withDefaults, hm, Option.map_some, Option.map_some,
      m.port_withDefaults_of_ne h]
  storagePath h := stringOr_of_ne h _
  storageConfigPath h := stringOr_of_ne h _
  configPath h := stringOr_of_ne h _
  tolerations h := if_neg (mt List.isEmpty_iff.1 h)
  blank := rfl

theorem Spec.withDefaults_complete (s : Spec) : s.withDefaults.Complete where
  repository p := by rw [p.image_withDefaults]; exact stringOr_ne p.repository_ne _
  pullPolicy p := by rw [p.image_withDefaults]; exact stringOr_ne (by decide) _
  requests p := by rw [p.resources_withDefaults]; exact p.defaults.requests.contains_fill _
  limits p := by rw [p.resources_withDefaults]; exact p.defaults.limits.contains_fill _
  port p m hm := by
    rw [p.prometheus?_withDefaults] at hm
    obtain ⟨given, -, rfl⟩ := Option.map_eq_some_iff.1 hm
    exact given.port_withDefaults_ne p.port_ne
  storagePath := stringOr_ne (by decide) _
  storageConfigPath := stringOr_ne (by decide) _
  configPath := stringOr_ne (by decide) _
  tolerations := s.components.settings.tolerations_withDefaults_ne

/-- What a spec is refused for is never filled in. -/
theorem Spec.validate_withDefaults (s : Spec) : s.withDefaults.validate = s.validate := rfl

/-- **Stable defaults.** Filling in a spec a second time changes nothing. It keeps every choice
of the user and leaves nothing open, and the spec is refused for the same reason before and
after. -/
theorem withDefaults_stable (s : Spec) :
    s.withDefaults.withDefaults = s.withDefaults ∧ s.withDefaults.Keeps s ∧
      s.withDefaults.Complete ∧ s.withDefaults.validate = s.validate :=
  ⟨s.withDefaults_withDefaults, s.withDefaults_keeps, s.withDefaults_complete,
    s.validate_withDefaults⟩

end AgentOperator.Agent
