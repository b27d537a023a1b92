import AgentOperator.Proofs.Wanted

/-!
AgentOperator.Proofs.Retention — what bringing an object to the spec keeps.

A component writes labels and annotations into the metadata of an object, and the
owner setter writes owner references. Neither touches what the cluster keeps there
to tell objects and their versions apart, nor the status, which belongs to others
(`Component.mutate_retains`, `own_retains`).
-/

namespace AgentOperator.Kube

/-- The status of an object. Many kinds have none. -/
inductive ObjectStatus where
  | deployment (status : Option DeploymentStatus)
  | daemonSet (status : Option (Carried Schema.daemonSetStatus))
  | service (status : Option (Carried Schema.serviceStatus))
  | none

def Object.status : Object → ObjectStatus
  | .deployment o => .deployment o.status
  | .daemonSet o => .daemonSet o.status
  | .service o => .service o.status
  | _ => .none

/-- The second metadata names the same version of the same object as the first. -/
structure ObjectMeta.Retains (m m' : ObjectMeta) : Prop where
  name : m'.name = m.name
  «namespace» : m'.namespace = m.namespace
  uid : m'.uid = m.uid
  resourceVersion : m'.resourceVersion = m.resourceVersion

/-- The second object stands for the same version of the same stored object as the
first, and has its status. -/
structure Object.Retains (o o' : Object) : Prop where
  kind : o'.kind = o.kind
  metadata : o.metadata.Retains o'.metadata
  status : o'.status = o.status

theorem Object.Retains.refl (o : Object) : o.Retains o := ⟨rfl, ⟨rfl, rfl, rfl, rfl⟩, rfl⟩

theorem Object.Retains.trans {o o' o'' : Object} (h : o.Retains o') (h' : o'.Retains o'') :
    o.Retains o'' :=
  ⟨h'.kind.trans h.kind,
    ⟨h'.metadata.name.trans h.metadata.name, h'.metadata.namespace.trans h.metadata.namespace,
      h'.metadata.uid.trans h.metadata.uid,
      h'.metadata.resourceVersion.trans h.metadata.resourceVersion⟩,
    h'.status.trans h.status⟩

@[simp] theorem status_withMetadata (o : Object) (m : ObjectMeta) :
    (o.withMetadata m).status = o.status := by
  cases o <;> rfl

/-- New metadata that names the same version is no other object. -/
theorem Object.retains_withMetadata {o : Object} {m : ObjectMeta} (h : o.metadata.Retains m) :
    o.Retains (o.withMetadata m) := by
  refine ⟨by cases o <;> rfl, ?_, status_withMetadata o m⟩
  rwa [Dataplane.metadata_withMetadata]

end AgentOperator.Kube

namespace AgentOperator.Dataplane

open Kube (Object ObjectMeta ObjectStatus WebhookConfiguration)

variable {x : Setting} {c : Component} {s : Surroundings} {spec : Agent.Spec} {opts : ApplyOptions}
  {found : Option Object} {o o' : Object}

/-! ## Components -/

/-- A component leaves the identity, the version and the status of an object alone. -/
theorem Component.Change.retains (h : Component.Change s spec c o o') : o.Retains o' := by
  have hentries (names : List String) (labels : Dict String) (w : WebhookConfiguration) :
      w.metadata.Retains (withEntries names (withConfigurationLabels labels w)).metadata := by
    rw [withEntries_eq]
    exact ⟨rfl, rfl, rfl, rfl⟩
  cases h with
  | validatingWebhook w htls => exact ⟨rfl, hentries _ _ w, rfl⟩
  | mutatingWebhook w htls => exact ⟨rfl, hentries _ _ w, rfl⟩
  | _ => exact ⟨rfl, ⟨rfl, rfl, rfl, rfl⟩, rfl⟩

/-- Every component's mutation leaves them alone. -/
theorem Component.mutate_retains (h : c.mutate s spec o = .ok o') : o.Retains o' :=
  (Component.change_of_mutate h).retains

/-! ## Owners -/

/-- An owner setter that leaves them alone as well. -/
def OwnerSetter.Retaining (setter : OwnerSetter) : Prop :=
  ∀ m m', setter m = .ok m' → m.Retains m'

def ApplyOptions.Retaining (opts : ApplyOptions) : Prop :=
  ∀ setter, opts.setOwner = some setter → setter.Retaining

theorem OwnerSetter.Proper.retaining {setter : OwnerSetter} (h : setter.Proper) :
    setter.Retaining := by
  intro m m' hm
  rw [h.rest hm]
  exact ⟨rfl, rfl, rfl, rfl⟩

theorem own_retains (hopts : opts.Retaining) (h : opts.own o = .ok o') : o.Retains o' := by
  unfold ApplyOptions.own at h
  split at h
  · cases h
    exact .refl o
  · obtain ⟨m, hm, rfl⟩ := Except.map_eq_ok.1 h
    exact Object.retains_withMetadata (hopts _ ‹_› _ m hm)

/-! ## Wanted objects -/

/-- An object that is made anew has the status of the empty one. -/
theorem status_of_wanted (hopts : opts.Proper) (h : x.wanted c s spec opts found = .ok o) :
    o.status = (found.getD (c.emptyObject s.kubelet)).status := by
  obtain ⟨s', o₁, name, space, refs, -, hchange, rfl, -, -⟩ := wanted_eq_ok hopts h
  rw [Kube.status_withMetadata]
  exact hchange.retains.status

end AgentOperator.Dataplane
