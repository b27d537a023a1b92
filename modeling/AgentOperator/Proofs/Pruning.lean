import AgentOperator.Keyed
import AgentOperator.Kube.Object

/-!
AgentOperator.Proofs.Pruning — what is read back from a server that keeps nothing
empty.

Of an object such a server forgets every optional list and every optional map that
is empty, wherever in the object it stands, and the value of every variable whose
value is the empty string (`Object.pruned`). Members that are always written stay,
empty or not.
-/

namespace AgentOperator

universe u

/-! ## Lists and maps -/

/-- An optional list as it is read back, with its elements as they are. -/
def prunedList {α : Type u} (prune : α → α) (xs : Option (List α)) : Option (List α) :=
  (xs.map (List.map prune)).filter (!·.isEmpty)

/-- An optional map as it is read back. -/
def prunedDict {V : Type u} (d : Option (Dict V)) : Option (Dict V) := d.filter (!·.isEmpty)

@[simp] theorem prunedList_none {α : Type u} (prune : α → α) : prunedList prune none = none :=
  rfl

@[simp] theorem prunedList_cons {α : Type u} (prune : α → α) (x : α) (xs : List α) :
    prunedList prune (some (x :: xs)) = some (prune x :: xs.map prune) := rfl

@[simp] theorem prunedDict_none {V : Type u} : prunedDict (none : Option (Dict V)) = none := rfl

@[simp] theorem prunedDict_prunedDict {V : Type u} (d : Option (Dict V)) :
    prunedDict (prunedDict d) = prunedDict d := by
  simp only [prunedDict, Option.filter_filter, Bool.and_self]

theorem Entries.insert_ne_nil {V : Type u} (k : String) (v : V) (es : List (String × V)) :
    Entries.insert k v es ≠ [] := by
  cases es with
  | nil => exact List.cons_ne_nil _ _
  | cons e es =>
    rw [Entries.insert]
    split
    · exact List.cons_ne_nil _ _
    · split <;> exact List.cons_ne_nil _ _

/-- A map that was written has entries. -/
@[simp] theorem prunedDict_insert {V : Type u} (d : Dict V) (k : String) (v : V) :
    prunedDict (some (d.insert k v)) = some (d.insert k v) := by
  have hne : (d.insert k v).isEmpty = false :=
    List.isEmpty_eq_false_iff.2 (Entries.insert_ne_nil k v d.entries)
  rw [prunedDict, Option.filter_some, hne]
  rfl

theorem prunedDict_ofList {V : Type u} {es : List (String × V)} (hne : es ≠ []) :
    prunedDict (some (Dict.ofList es)) = some (Dict.ofList es) := by
  -- The map of a list is that of its front with the last entry written.
  obtain ⟨front, e, rfl⟩ := List.eq_nil_or_concat es |>.resolve_left hne
  have hlast : Dict.ofList (front ++ [e]) = (Dict.ofList front).insert e.1 e.2 :=
    Dict.ext_entries (List.foldl_append ..)
  rw [List.concat_eq_append, hlast, prunedDict_insert]

@[simp] theorem prunedDict_unlessEmpty {V : Type u} (d : Dict V) :
    prunedDict (if d.isEmpty then none else some d) = if d.isEmpty then none else some d := by
  split
  · rfl
  · rename_i h
    simp [prunedDict, Option.filter_some, h]

/-- Nothing goes from a list with elements of which none loses anything. -/
theorem prunedList_some {α : Type u} {prune : α → α} {xs : List α} (hne : xs ≠ [])
    (h : ∀ x ∈ xs, prune x = x) : prunedList prune (some xs) = some xs := by
  rw [prunedList, Option.map_some, List.map_congr_left h, List.map_id', Option.filter_some,
    if_pos (by simpa using hne)]

theorem prunedList_unlessEmpty {α : Type u} (prune : α → α) (xs : List α) :
    prunedList prune (Keyed.unlessEmpty xs) = Keyed.unlessEmpty (xs.map prune) := by
  cases xs <;> rfl

/-! ## Parts that are carried along -/

namespace Schema

/-- Whether an optional member keeps its value. A text is only lost if it is the value
of a variable. -/
def isKept (variableValue : Bool) : (s : Schema) → Value s → Bool
  | .list _, v => !List.isEmpty v
  | .dict _, v => !Dict.isEmpty v
  | .string, v => !(variableValue && String.isEmpty v)
  | _, _ => true

/-- Whether these are the members of a variable. -/
def isVariable (fs : Fields) : Bool := fs.map (·.1) == ["name", "value", "valueFrom"]

mutual

/-- A value of the described type as it is read back. -/
def prune : (s : Schema) → Value s → Value s
  | .list s, v => List.map (prune s) v
  | .dict s, v => Dict.map (prune s) v
  | .object fs, v => pruneFields (isVariable fs) fs v
  | .string, v => v
  | .bool, v => v
  | .int32, v => v
  | .int64, v => v
  | .intOrString, v => v
  | .bytes, v => v
  | .time, v => v
  | .any, v => v

/-- The members of an object, or of a variable, as they are read back. -/
def pruneFields (ofVariable : Bool) :
    (fs : List (String × Presence × Schema)) → FieldValues fs → FieldValues fs
  | [], vs => vs
  | (name, .optional, s) :: fs, (v, vs) =>
    ((v.map (prune s)).filter (isKept (ofVariable && name == "value") s),
      pruneFields ofVariable fs vs)
  | (_, .required, s) :: fs, (v, vs) => (prune s v, pruneFields ofVariable fs vs)
  | (_, .mandatory, s) :: fs, (v, vs) => (prune s v, pruneFields ofVariable fs vs)

end

mutual

/-- A default has no value that could be lost. -/
theorem prune_default : (s : Schema) → prune s (Value.default s) = Value.default s
  | .list _ => rfl
  | .dict _ => rfl
  | .object fs => pruneFields_default (isVariable fs) fs
  | .string => rfl
  | .bool => rfl
  | .int32 => rfl
  | .int64 => rfl
  | .intOrString => rfl
  | .bytes => rfl
  | .time => rfl
  | .any => rfl

theorem pruneFields_default (ofVariable : Bool) :
    (fs : List (String × Presence × Schema)) →
      pruneFields ofVariable fs (FieldValues.default fs) = FieldValues.default fs
  | [] => rfl
  | (_, .optional, _) :: fs => congrArg (Prod.mk none) (pruneFields_default ofVariable fs)
  | (_, .required, s) :: fs => Prod.ext (prune_default s) (pruneFields_default ofVariable fs)
  | (_, .mandatory, s) :: fs => Prod.ext (prune_default s) (pruneFields_default ofVariable fs)

end

end Schema

def Carried.pruned {s : Schema} (c : Carried s) : Carried s := ⟨s.prune c.value⟩

def Rest.pruned {fs : Fields} (r : Rest fs) : Rest fs := ⟨Schema.pruneFields false fs r.values⟩

@[simp] theorem Rest.pruned_default {fs : Fields} : (default : Rest fs).pruned = default :=
  congrArg Rest.mk (Schema.pruneFields_default false fs)

end AgentOperator

namespace AgentOperator.Kube

/-! ## Metadata and placement -/

def ObjectMeta.pruned (m : ObjectMeta) : ObjectMeta :=
  { m with
    labels := prunedDict m.labels
    annotations := prunedDict m.annotations
    ownerReferences := prunedList id m.ownerReferences
    finalizers := prunedList id m.finalizers
    rest := m.rest.pruned }

def LabelSelectorRequirement.pruned (r : LabelSelectorRequirement) : LabelSelectorRequirement :=
  { r with values := prunedList id r.values }

def LabelSelector.pruned (s : LabelSelector) : LabelSelector where
  matchExpressions := prunedList LabelSelectorRequirement.pruned s.matchExpressions
  matchLabels := prunedDict s.matchLabels

def NodeSelectorRequirement.pruned (r : NodeSelectorRequirement) : NodeSelectorRequirement :=
  { r with values := prunedList id r.values }

def NodeSelectorTerm.pruned (t : NodeSelectorTerm) : NodeSelectorTerm where
  matchExpressions := prunedList NodeSelectorRequirement.pruned t.matchExpressions
  matchFields := prunedList NodeSelectorRequirement.pruned t.matchFields

def NodeSelector.pruned (s : NodeSelector) : NodeSelector where
  nodeSelectorTerms := s.nodeSelectorTerms.map NodeSelectorTerm.pruned

def PreferredSchedulingTerm.pruned (t : PreferredSchedulingTerm) : PreferredSchedulingTerm :=
  { t with preference := t.preference.pruned }

def NodeAffinity.pruned (a : NodeAffinity) : NodeAffinity where
  preferred := prunedList PreferredSchedulingTerm.pruned a.preferred
  required := a.required.map NodeSelector.pruned

def Affinity.pruned (a : Affinity) : Affinity where
  nodeAffinity := a.nodeAffinity.map NodeAffinity.pruned
  podAffinity := a.podAffinity.map Carried.pruned
  podAntiAffinity := a.podAntiAffinity.map Carried.pruned

/-! ## Containers -/

/-- A variable without its value, if that is the empty string. -/
def EnvVar.pruned (v : EnvVar) : EnvVar := { v with value := v.value.filter (· ≠ "") }

def ExecAction.pruned (a : ExecAction) : ExecAction where
  command := prunedList id a.command

def HttpGetAction.pruned (a : HttpGetAction) : HttpGetAction := { a with rest := a.rest.pruned }

def Probe.pruned (p : Probe) : Probe :=
  { p with
    exec := p.exec.map ExecAction.pruned
    grpc := p.grpc.map Carried.pruned
    httpGet := p.httpGet.map HttpGetAction.pruned
    tcpSocket := p.tcpSocket.map Carried.pruned
    rest := p.rest.pruned }

def ResourceRequirements.pruned (r : ResourceRequirements) : ResourceRequirements where
  limits := prunedDict r.limits
  requests := prunedDict r.requests
  rest := r.rest.pruned

def Capabilities.pruned (c : Capabilities) : Capabilities where
  add := prunedList id c.add
  drop := prunedList id c.drop

def SecurityContext.pruned (s : SecurityContext) : SecurityContext :=
  { s with
    capabilities := s.capabilities.map Capabilities.pruned
    rest := s.rest.pruned }

def VolumeMount.pruned (m : VolumeMount) : VolumeMount := { m with rest := m.rest.pruned }

def Container.pruned (c : Container) : Container :=
  { c with
    command := prunedList id c.command
    env := prunedList EnvVar.pruned c.env
    ports := prunedList id c.ports
    livenessProbe := c.livenessProbe.map Probe.pruned
    readinessProbe := c.readinessProbe.map Probe.pruned
    resources := c.resources.map ResourceRequirements.pruned
    securityContext := c.securityContext.map SecurityContext.pruned
    volumeMounts := prunedList VolumeMount.pruned c.volumeMounts
    rest := c.rest.pruned }

/-! ## Pods and workloads -/

def ConfigMapVolumeSource.pruned (s : ConfigMapVolumeSource) : ConfigMapVolumeSource :=
  { s with items := prunedList id s.items }

def SecretVolumeSource.pruned (s : SecretVolumeSource) : SecretVolumeSource :=
  { s with items := prunedList id s.items }

def Volume.pruned (v : Volume) : Volume :=
  { v with
    configMap := v.configMap.map ConfigMapVolumeSource.pruned
    secret := v.secret.map SecretVolumeSource.pruned
    rest := v.rest.pruned }

def PodSpec.pruned (p : PodSpec) : PodSpec :=
  { p with
    affinity := p.affinity.map Affinity.pruned
    containers := p.containers.map Container.pruned
    imagePullSecrets := prunedList id p.imagePullSecrets
    nodeSelector := prunedDict p.nodeSelector
    tolerations := prunedList id p.tolerations
    volumes := prunedList Volume.pruned p.volumes
    rest := p.rest.pruned }

def PodTemplateSpec.pruned (t : PodTemplateSpec) : PodTemplateSpec where
  metadata := t.metadata.map ObjectMeta.pruned
  spec := t.spec.map PodSpec.pruned

def DeploymentSpec.pruned (s : DeploymentSpec) : DeploymentSpec :=
  { s with selector := s.selector.pruned, template := s.template.pruned, rest := s.rest.pruned }

def DeploymentStatus.pruned (s : DeploymentStatus) : DeploymentStatus :=
  { s with rest := s.rest.pruned }

def Deployment.pruned (d : Deployment) : Deployment where
  metadata := d.metadata.pruned
  spec := d.spec.map DeploymentSpec.pruned
  status := d.status.map DeploymentStatus.pruned

def DaemonSetSpec.pruned (s : DaemonSetSpec) : DaemonSetSpec where
  selector := s.selector.pruned
  template := s.template.pruned
  rest := s.rest.pruned

def DaemonSet.pruned (d : DaemonSet) : DaemonSet where
  metadata := d.metadata.pruned
  spec := d.spec.map DaemonSetSpec.pruned
  status := d.status.map Carried.pruned

/-! ## Services, webhooks and plain objects -/

def ServiceSpec.pruned (s : ServiceSpec) : ServiceSpec :=
  { s with
    selector := prunedDict s.selector
    ports := prunedList id s.ports
    rest := s.rest.pruned }

def Service.pruned (s : Service) : Service where
  metadata := s.metadata.pruned
  spec := s.spec.map ServiceSpec.pruned
  status := s.status.map Carried.pruned

def RuleWithOperations.pruned (r : RuleWithOperations) : RuleWithOperations :=
  { r with
    apiGroups := prunedList id r.apiGroups
    apiVersions := prunedList id r.apiVersions
    operations := prunedList id r.operations
    resources := prunedList id r.resources }

def Webhook.pruned (w : Webhook) : Webhook :=
  { w with
    namespaceSelector := w.namespaceSelector.map LabelSelector.pruned
    objectSelector := w.objectSelector.map LabelSelector.pruned
    rules := w.rules.map RuleWithOperations.pruned }

/-- Its lists of entries and of rules are read as empty when they are missing. -/
def WebhookConfiguration.pruned (c : WebhookConfiguration) : WebhookConfiguration :=
  { c with metadata := c.metadata.pruned, webhooks := c.webhooks.map Webhook.pruned }

def ConfigMap.pruned (m : ConfigMap) : ConfigMap :=
  { m with
    metadata := m.metadata.pruned
    binaryData := prunedDict m.binaryData
    data := prunedDict m.data }

def Secret.pruned (s : Secret) : Secret :=
  { s with
    metadata := s.metadata.pruned
    data := prunedDict s.data
    stringData := prunedDict s.stringData }

def PriorityClass.pruned (p : PriorityClass) : PriorityClass :=
  { p with metadata := p.metadata.pruned }

/-- An object as it is read back from a server that keeps nothing empty. -/
def Object.pruned : Object → Object
  | .deployment d => .deployment d.pruned
  | .daemonSet d => .daemonSet d.pruned
  | .service s => .service s.pruned
  | .secret s => .secret s.pruned
  | .configMap m => .configMap m.pruned
  | .priorityClass p => .priorityClass p.pruned
  | .validatingWebhookConfiguration c => .validatingWebhookConfiguration c.pruned
  | .mutatingWebhookConfiguration c => .mutatingWebhookConfiguration c.pruned

end AgentOperator.Kube
