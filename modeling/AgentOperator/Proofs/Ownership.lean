import AgentOperator.Proofs.Plain
import AgentOperator.Proofs.Writes

/-!
AgentOperator.Proofs.Ownership — what one agent's passes write goes away with it.

An object in a namespace is written with the agent as its controller, so that the
cluster deletes it with the agent; an object of the whole cluster is written without
owners, and is deleted by the agent's cleanup. Metadata that is one or the other way
is `Bound`, and everything that the passes of one agent ever store or ask to be stored
has bound metadata (`Tended.belongings`), through faults, other specs and other
namespaces. A cleanup that succeeds leaves only the former kind
(`Tended.nothing_orphaned`).
-/

namespace AgentOperator.Kube

/-! ## Metadata of stored values -/

/-- The metadata that a value gives itself. -/
def ownMetadata? (j : Json) : Option ObjectMeta :=
  (j.get? "metadata").bind fun i => (ObjectMeta.codec.decode i).toOption

/-- A value with a name has a metadata member. -/
theorem exists_metadata_of_name {j : Json} (h : (ownKey j).name ≠ "") :
    ∃ i, j.get? "metadata" = some i ∧ i ≠ .null := by
  cases hi : j.get? "metadata" with
  | none =>
    rw [ownKey, hi] at h
    exact absurd rfl h
  | some i =>
    refine ⟨i, rfl, ?_⟩
    rintro rfl
    rw [ownKey, hi] at h
    exact absurd rfl h

theorem ObjectMeta.ReadIn.ownMetadata? {j : Json} {m : ObjectMeta} (h : m.ReadIn j)
    (hname : (ownKey j).name ≠ "") : Kube.ownMetadata? j = some m := by
  obtain ⟨i, hi, hnull⟩ := exists_metadata_of_name hname
  rw [Kube.ownMetadata?, hi, Option.bind_some, h.member i hi hnull]
  rfl

/-- An object that was read has the metadata that its value gives itself. -/
theorem Object.ownMetadata?_of_decodeLike {kubelet : String} {kind : Kind} {j : Json} {o : Object}
    (h : (empty kubelet kind).decodeLike j = .ok o) (hname : (ownKey j).name ≠ "") :
    ownMetadata? j = some o.metadata := by
  refine ((decodeLike_yields h).2 ?_).ownMetadata? hname
  rintro js rfl
  exact hname rfl

/-- It is written with its own metadata. -/
theorem Object.ownMetadata?_encode {kubelet : String} {o : Object} (h : o.Known kubelet)
    (hname : o.key.name ≠ "") : ownMetadata? o.encode = some o.metadata := by
  refine ownMetadata?_of_decodeLike (decodeLike_encode h) ?_
  rwa [ownKey_encode h]

/-- Another member of a value is nothing to its metadata. -/
theorem ownMetadata?_of_sameBeside {name : String} {i j : Json} (h : i.SameBeside name j)
    (hname : name ≠ "metadata") : ownMetadata? i = ownMetadata? j := by
  obtain ⟨ms, ns, rfl, rfl, hsame⟩ := h
  have hmeta : (Json.obj ms).get? "metadata" = (Json.obj ns).get? "metadata" :=
    hsame "metadata" hname.symm
  rw [ownMetadata?, ownMetadata?, hmeta]

/-! ## Controllers -/

/-- An owner reference makes an agent the controller. -/
def ObjectMeta.ControlledBy (m : ObjectMeta) (uid : String) : Prop :=
  ∃ r ∈ m.ownerReferences.getD [], r.controller = some true ∧ r.uid = uid ∧
    r.apiVersion = Agent.apiVersion ∧ r.kind = Agent.kindName

/-- In a namespace, the agent is the controller; beside all namespaces, there is no
owner. -/
def ObjectMeta.Bound (m : ObjectMeta) (uid : String) : Prop :=
  match m.namespace with
  | none => m.ownerReferences = none
  | some _ => m.ControlledBy uid

end AgentOperator.Kube

namespace AgentOperator.Controller

open Kube (ObjectMeta)

variable {a : Agent.Resource} {spec : Agent.Spec} {setter : Dataplane.OwnerSetter}
  {m m' : ObjectMeta} {uid : String}

/-- An agent becomes the controller of what is in the spec's namespace. -/
theorem controlledBy_of_ownerSetter (h : ownerSetter a spec = .ok setter)
    (huid : a.metadata.uid = some uid) (hm : setter m = .ok m')
    (hspace : m.namespace = some spec.namespace) : m'.ControlledBy uid := by
  unfold ownerSetter at h
  split at h
  · cases h
  · rename_i owner howner
    cases h
    dsimp only at hm
    rw [if_pos hspace] at hm
    cases hm
    have hmem := List.mem_of_find?_eq_some
      (find?_withController owner (m.ownerReferences.getD []))
    obtain ⟨name, -, howner⟩ := Option.bind_eq_some_iff.1 howner
    obtain ⟨uid', huid', howner⟩ := Option.bind_eq_some_iff.1 howner
    cases huid.symm.trans huid'
    cases howner
    exact ⟨_, hmem, rfl, rfl, rfl, rfl⟩

/-- What is in no namespace keeps its owners. -/
theorem ownerReferences_of_ownerSetter (h : ownerSetter a spec = .ok setter)
    (hm : setter m = .ok m') (hspace : m.namespace = none) :
    m'.ownerReferences = m.ownerReferences := by
  unfold ownerSetter at h
  split at h
  · cases h
  · cases h
    dsimp only at hm
    rw [if_neg (by simp [hspace])] at hm
    cases hm
    rfl

end AgentOperator.Controller

namespace AgentOperator.Dataplane

open Controller (ownerSetter ownerSetter_proper)
open Kube (Kind Object ObjectMeta ownKey ownMetadata?)
open Pass
open Store (Call Place Table placeOf)

variable {x : Setting} {c : Component} {kubelet : String} {s : Surroundings} {spec : Agent.Spec}
  {opts : ApplyOptions} {found : Option Object} {o o' : Object} {a : Agent.Resource}
  {setter : OwnerSetter} {uid : String} {t t' : Table} {p : Place}

/-! ## Owners of wanted objects -/

/-- A component leaves the owners of an object alone. -/
theorem Component.Change.ownerReferences_eq (h : Component.Change s spec c o o') :
    o'.metadata.ownerReferences = o.metadata.ownerReferences := by
  cases h with
  | validatingWebhook d htls =>
    simp only [Object.metadata, withValidatingEntries, withEntries_eq, withConfigurationLabels]
  | mutatingWebhook d htls =>
    simp only [Object.metadata, withMutatingEntries, withEntries_eq, withConfigurationLabels]
  | _ => rfl

/-- What is wanted has the metadata that the owner setter makes of the key and of the
owners that were found. -/
theorem set_of_wanted (hset : opts.setOwner = some setter)
    (h : x.wanted c s spec opts found = .ok o) :
    ∃ m, setter m = .ok o.metadata ∧ m.namespace = (wantedKey c spec found).namespace ∧
      m.ownerReferences = (found.bind (·.metadata.ownerReferences)) := by
  have hown {o₁ : Object} (h : opts.own o₁ = .ok o) : setter o₁.metadata = .ok o.metadata := by
    rw [ApplyOptions.own, hset] at h
    obtain ⟨m, hm, rfl⟩ := Except.map_eq_ok.1 h
    rwa [metadata_withMetadata]
  obtain ⟨s', -, h⟩ := Except.bind_eq_ok.1 h
  cases found with
  | none =>
    obtain ⟨o₁, hmutate, h⟩ := Except.bind_eq_ok.1 h
    have hchange := Component.change_of_mutate hmutate
    refine ⟨_, hown h, ?_, ?_⟩
    · rw [named, metadata_withMetadata]
      rfl
    · rw [named, metadata_withMetadata]
      refine hchange.ownerReferences_eq.trans ?_
      cases c <;> rfl
  | some observed =>
    obtain ⟨o₁, hmutate, h⟩ := Except.bind_eq_ok.1 h
    have hchange := Component.change_of_mutate hmutate
    refine ⟨_, hown h, ?_, hchange.ownerReferences_eq⟩
    exact congrArg Kube.ObjectKey.namespace hchange.key_eq

theorem Component.key_namespace (c : Component) (spec : Agent.Spec) :
    (c.key spec).namespace = if c.isClusterScoped then none else some spec.namespace := by
  unfold key
  split <;> rfl

/-- What an agent's pass wants is bound to it, if what was found is. -/
theorem bound_of_wanted (hsetter : ownerSetter a spec = .ok setter)
    (huid : a.metadata.uid = some uid) (hset : opts.setOwner = some setter)
    (hfound : ∀ observed, found = some observed →
      observed.key = c.key spec ∧ observed.metadata.Bound uid)
    (h : x.wanted c s spec opts found = .ok o) : o.metadata.Bound uid := by
  obtain ⟨m, hm, hspace, howners⟩ := set_of_wanted hset h
  have hkey : wantedKey c spec found = c.key spec := by
    cases found with
    | none => rfl
    | some observed => exact (hfound observed rfl).1
  have hkept : o.metadata.namespace = m.namespace :=
    (congrArg ObjectMeta.namespace ((ownerSetter_proper hsetter).rest hm)).trans rfl
  rw [hkey, c.key_namespace] at hspace
  rw [ObjectMeta.Bound, hkept, hspace]
  cases hcluster : c.isClusterScoped with
  | false =>
    rw [hcluster] at hspace
    exact Controller.controlledBy_of_ownerSetter hsetter huid hm hspace
  | true =>
    rw [hcluster] at hspace
    show o.metadata.ownerReferences = none
    rw [Controller.ownerReferences_of_ownerSetter hsetter hm hspace, howners]
    cases found with
    | none => rfl
    | some observed =>
      obtain ⟨hkey, hbound⟩ := hfound observed rfl
      have hnone : observed.metadata.namespace = none := by
        refine (congrArg Kube.ObjectKey.namespace hkey).trans ?_
        rw [c.key_namespace, hcluster]
        rfl
      rwa [ObjectMeta.Bound, hnone] at hbound

/-! ## Stores of one agent -/

/-- A stored value is the object of a component under some spec, and bound to the agent. -/
structure Belonging (uid : String) (p : Place) (j : Json) : Prop where
  place : ∃ (c : Component) (spec : Agent.Spec), p = c.place spec
  key : ownKey j = p.key
  bound : ∃ m, ownMetadata? j = some m ∧ m.namespace = p.key.namespace ∧ m.Bound uid

/-- Everything that is stored belongs to the agent. -/
def Belongings (uid : String) (t : Table) : Prop := ∀ p j, t.get? p = some j → Belonging uid p j

/-- A call that stores only objects of components, bound to the agent. -/
def StoresBound (uid : String) (call : Call) : Prop :=
  ∀ o, call = .create o ∨ call = .update o →
    (∃ (c : Component) (spec : Agent.Spec), placeOf o = c.place spec) ∧ o.metadata.Bound uid

theorem belongings_empty : Belongings uid {} := by
  intro p j hj
  cases hj

theorem Belongings.put {j : Json} (h : Belongings uid t) (hj : Belonging uid p j) :
    Belongings uid (t.put p j) := by
  intro q i hi
  rw [Table.get?_put] at hi
  split at hi
  · rename_i hpq
    cases hi
    exact hpq ▸ hj
  · exact h q i hi

theorem Belongings.placed (h : Belongings uid t) : Placed t := fun p j hj => (h p j hj).key

/-- Nobody but the owner is told from the status. -/
theorem Belonging.edit {i j : Json} (h : Belonging uid p j) (hi : i.SameBeside "status" j) :
    Belonging uid p i := by
  refine ⟨h.place, ?_, ?_⟩
  · rw [ownKey_of_sameBeside hi (by decide)]
    exact h.key
  · rw [Kube.ownMetadata?_of_sameBeside hi (by decide)]
    exact h.bound

/-- What is read of a component is under its key, and bound. -/
theorem Belongings.of_stored (h : Belongings uid t)
    (hread : c.stored kubelet spec t = .ok (some o)) :
    o.key = c.key spec ∧ o.metadata.Bound uid := by
  obtain ⟨j, hj, hdecode⟩ := Table.get?_of_read_eq_some hread
  rw [emptyObject_kind] at hj
  have hbelongs := h _ j hj
  have hname : (ownKey j).name ≠ "" := by
    rw [hbelongs.key, c.key_name]
    exact c.objectName_ne_empty
  obtain ⟨m, hm, -, hbound⟩ := hbelongs.bound
  rw [Object.ownMetadata?_of_decodeLike hdecode hname] at hm
  cases hm
  exact ⟨congrArg Place.key (h.placed.place_of_stored hread), hbound⟩

theorem proper_of_ownerSetter (hsetter : ownerSetter a spec = .ok setter)
    (hset : opts.setOwner = some setter) : opts.Proper := by
  intro setter' hset'
  cases hset.symm.trans hset'
  exact ownerSetter_proper hsetter

/-- What an agent's pass asks for is the object of the component, and bound. -/
theorem Belongings.of_wanted (h : Belongings uid t) (hsetter : ownerSetter a spec = .ok setter)
    (huid : a.metadata.uid = some uid) (hset : opts.setOwner = some setter)
    (hread : c.stored s.kubelet spec t = .ok found)
    (hwanted : x.wanted c s spec opts found = .ok o) :
    placeOf o = c.place spec ∧ o.metadata.Bound uid := by
  refine ⟨h.placed.place_of_wanted (proper_of_ownerSetter hsetter hset) hread hwanted, ?_⟩
  refine bound_of_wanted hsetter huid hset ?_ hwanted
  rintro observed rfl
  exact h.of_stored hread

/-- What an agent's pass writes belongs to the agent. -/
theorem Belongings.applying {r : Except Error Applied} (h : Belongings uid t)
    (hsetter : ownerSetter a spec = .ok setter) (huid : a.metadata.uid = some uid)
    (hset : opts.setOwner = some setter) (happly : Applying x c s spec opts t r t') :
    Belongings uid t' := by
  cases happly with
  | @written found o hread hwanted hchanged hfresh =>
    have hknown := known_of_wanted (proper_of_ownerSetter hsetter hset) hread hwanted
    obtain ⟨hplace, hbound⟩ := h.of_wanted hsetter huid hset hread hwanted
    refine h.put ⟨⟨c, spec, hplace⟩, Object.ownKey_encode hknown, o.metadata, ?_, rfl, hbound⟩
    refine Object.ownMetadata?_encode hknown ?_
    rw [show o.key = c.key spec from congrArg Place.key hplace, c.key_name]
    exact c.objectName_ne_empty
  | _ => exact h

theorem Belongings.deleting {r : Except Error Bool} (h : Belongings uid t)
    (hdelete : Deleting c kubelet spec t r t') : Belongings uid t' :=
  fun p j hj => h p j (hdelete.get?_eq_some hj)

/-! ## Passes of one agent -/

/-- From a store of the agent to another one, by calls that store only what is bound
to it. -/
def Tends (uid : String) (w w' : Scene) : Prop :=
  Belongings uid w.store → Belongings uid w'.store ∧
    ∃ new, w'.calls = w.calls ++ new ∧ ∀ made ∈ new, StoresBound uid made.call

theorem storesBound_get (template : Object) (key : Kube.ObjectKey) :
    StoresBound uid (.get template key) := by
  rintro o (h | h) <;> cases h

/-- Deletions tend a store. -/
theorem followedByDeletion_tends : FollowedByDeletion x spec (Tends uid) := by
  refine ⟨?_, ?_, ?_⟩
  · exact fun w h => ⟨h, [], (List.append_nil _).symm, List.forall_mem_nil _⟩
  · intro u v w huv hvw hu
    obtain ⟨hv, new, hnew, hbound⟩ := huv hu
    obtain ⟨hw, more, hmore, hbound'⟩ := hvw hv
    refine ⟨hw, new ++ more, by rw [hmore, hnew, List.append_assoc], ?_⟩
    exact List.forall_mem_append.2 ⟨hbound, hbound'⟩
  · intro c kubelet r w w' htask hw
    refine ⟨hw.deleting (deleting_of_runIn htask), ?_⟩
    rw [runIn_deleteIfExists] at htask
    obtain ⟨new, hnew, hmade⟩ := Setting.once_made htask
    refine ⟨new, hnew, fun made hmem => ?_⟩
    rcases hmade made hmem with hget | ⟨found, deleted, -, hrespond⟩
    · rw [hget]
      exact storesBound_get _ _
    · rintro o (ho | ho) <;> rw [ho] at hrespond <;> cases found <;> cases hrespond

/-- An agent's passes tend its store. -/
theorem followed_tends (hsetter : ownerSetter a spec = .ok setter)
    (huid : a.metadata.uid = some uid) : Followed x spec (some setter) (Tends uid) := by
  refine ⟨followedByDeletion_tends, ?_⟩
  intro c s opts r w w' hset htask hw
  refine ⟨hw.applying hsetter huid hset (applying_of_runIn htask), ?_⟩
  rw [runIn_apply] at htask
  obtain ⟨new, hnew, hmade⟩ := Setting.once_made htask
  refine ⟨new, hnew, fun made hmem => ?_⟩
  rcases hmade made hmem with hget | ⟨found, applied, hread, hrespond⟩
  · rw [hget]
    exact storesBound_get _ _
  · rcases response_cases hrespond with ⟨-, hnone⟩ | ⟨-, hwanted, hwrite⟩
    · cases hnone
    obtain ⟨hplace, hbound⟩ := hw.of_wanted hsetter huid hset hread hwanted
    rintro o (ho | ho) <;> rw [ho] at hwrite <;> rcases hwrite with hwrite | hwrite <;> cases hwrite
    · exact ⟨⟨c, spec, hplace⟩, hbound⟩
    · exact ⟨⟨c, spec, hplace⟩, hbound⟩

/-- The stores that the passes of one agent lead to from the empty one, each with the
calls made so far. The passes may be for any specs, any calls may fail, and cleanups may
have been tried before. -/
inductive Tended (uid : String) : Table → List Made → Prop where
  | empty : Tended uid {} []
  | pass {t : Table} {log : List Made} {m m' : Memory} {w' : Scene} (h : Tended uid t log)
      (x : Setting) {a : Agent.Resource} (huid : a.metadata.uid = some uid) {spec : Agent.Spec}
      {setter : OwnerSetter} (hsetter : ownerSetter a spec = .ok setter)
      (registry : RegistryCredentials) {r : Except Error Bool}
      (hrun : runIn x (applyDesiredState spec registry (some setter)) m ⟨t, []⟩ = ((r, m'), w')) :
      Tended uid w'.store (log ++ w'.calls)
  | cleanup {t : Table} {log : List Made} {m m' : Memory} {w' : Scene} (h : Tended uid t log)
      (x : Setting) (spec : Agent.Spec) {r : Except Error Bool}
      (hrun : runIn x (deleteClusterScoped spec) m ⟨t, []⟩ = ((r, m'), w')) :
      Tended uid w'.store (log ++ w'.calls)
  /-- Another writer changes a status. -/
  | edit {t : Table} {log : List Made} {p : Place} {i j : Json} (h : Tended uid t log)
      (hj : t.get? p = some j) (hi : i.SameBeside "status" j) : Tended uid (t.put p i) log

theorem Tended.belongings {log : List Made} (h : Tended uid t log) :
    Belongings uid t ∧ ∀ made ∈ log, StoresBound uid made.call := by
  have hnext {t : Table} {log : List Made} {w' : Scene} (htends : Tends uid ⟨t, []⟩ w')
      (ih : Belongings uid t ∧ ∀ made ∈ log, StoresBound uid made.call) :
      Belongings uid w'.store ∧ ∀ made ∈ log ++ w'.calls, StoresBound uid made.call := by
    obtain ⟨hstore, new, hnew, hbound⟩ := htends ih.1
    rw [List.nil_append] at hnew
    exact ⟨hstore, List.forall_mem_append.2 ⟨ih.2, hnew ▸ hbound⟩⟩
  induction h with
  | empty => exact ⟨belongings_empty, List.forall_mem_nil _⟩
  | pass h x huid hsetter registry hrun ih =>
    exact hnext ((followed_tends hsetter huid).applyDesiredState hrun) ih
  | cleanup h x spec hrun ih => exact hnext (followedByDeletion_tends.deleteClusterScoped hrun) ih
  | edit h hj hi ih => exact ⟨ih.1.put ((ih.1 _ _ hj).edit hi), ih.2⟩

/-! ## Cleanup -/

/-- The kinds whose objects are in no namespace. -/
def clusterScopedKinds : List Kind :=
  [.priorityClass, .validatingWebhookConfiguration, .mutatingWebhookConfiguration]

theorem Component.kind_mem_clusterScopedKinds (c : Component) :
    c.kind ∈ clusterScopedKinds ↔ c.isClusterScoped = true := by
  cases c <;> decide

/-- One that is in no namespace has the same place under every spec. -/
theorem Component.place_eq_of_isClusterScoped (h : c.isClusterScoped = true)
    (spec spec' : Agent.Spec) : c.place spec = c.place spec' := by
  rw [place, place, key, key, if_pos h, if_pos h]

theorem Component.key_namespace_eq_none_iff (c : Component) (spec : Agent.Spec) :
    (c.key spec).namespace = none ↔ c.kind ∈ clusterScopedKinds := by
  rw [c.key_namespace, c.kind_mem_clusterScopedKinds]
  cases c.isClusterScoped <;> simp

theorem deleteClusterScoped_absent {m m' : Memory} {w w' : Scene} {deleted : Bool}
    (hrun : runIn x (deleteClusterScoped spec) m w = ((.ok deleted, m'), w')) (hw : Placed w.store)
    (hc : c.isClusterScoped = true) : w'.store.get? (c.place spec) = none := by
  have htreads : Treads x spec [.validatingWebhook, .mutatingWebhook, .priorityClass]
      (fun _ => True) (deleteClusterScoped spec)
      fun _ => AllStored spec [.validatingWebhook, .mutatingWebhook, .priorityClass] false := by
    refine treads_kubeletVersion.bind fun kubelet => ?_
    exact treads_deleteAll (by decide) (by decide)
  have hmem : c ∈ [Component.validatingWebhook, .mutatingWebhook, .priorityClass] := by
    cases c <;> first | decide | cases hc
  have habsent := (htreads.after hw trivial hrun).2 deleted rfl c hmem
  simpa using habsent

/-- **Nothing is orphaned by cleanup.** After passes of one agent and a cleanup that
succeeds:

* no webhook configuration and no priority class is stored;
* whatever is stored has an owner reference that makes the agent its controller;
* nothing of these kinds was ever asked to be stored with an owner. -/
theorem Tended.nothing_orphaned {log : List Made} (h : Tended uid t log) {m m' : Memory}
    {w' : Scene} {deleted : Bool}
    (hcleanup : runIn x (deleteClusterScoped spec) m ⟨t, []⟩ = ((.ok deleted, m'), w')) :
    (∀ p j, w'.store.get? p = some j → p.kind ∉ clusterScopedKinds ∧
      ∃ metadata, ownMetadata? j = some metadata ∧ metadata.ControlledBy uid) ∧
    ∀ made ∈ log ++ w'.calls, ∀ o, made.call = .create o ∨ made.call = .update o →
      o.kind ∈ clusterScopedKinds → o.metadata.ownerReferences = none := by
  have hplaced : Placed t := h.belongings.1.placed
  obtain ⟨hstore, hlog⟩ := (h.cleanup x spec hcleanup).belongings
  refine ⟨fun p j hj => ?_, fun made hmade o ho hkind => ?_⟩
  · obtain ⟨⟨c, spec', rfl⟩, -, metadata, hmetadata, hspace, hmine⟩ := hstore p j hj
    have hkind : c.kind ∉ clusterScopedKinds := by
      rw [c.kind_mem_clusterScopedKinds]
      intro hcluster
      rw [c.place_eq_of_isClusterScoped hcluster spec' spec,
        deleteClusterScoped_absent hcleanup hplaced hcluster] at hj
      cases hj
    refine ⟨hkind, metadata, hmetadata, ?_⟩
    have hsome : (c.key spec').namespace ≠ none := by
      rwa [ne_eq, c.key_namespace_eq_none_iff]
    obtain ⟨space, hsome⟩ := Option.ne_none_iff_exists'.1 hsome
    rwa [ObjectMeta.Bound, hspace, show (c.place spec').key.namespace = some space from hsome]
      at hmine
  · obtain ⟨⟨c, spec', hplace⟩, hmine⟩ := hlog made hmade o ho
    have hspace : o.metadata.namespace = none := by
      refine (congrArg (·.key.namespace) hplace).trans ?_
      rwa [show o.kind = c.kind from congrArg Place.kind hplace,
        ← c.key_namespace_eq_none_iff spec'] at hkind
    rwa [ObjectMeta.Bound, hspace] at hmine

/-! ### An agent that is cleaned up -/

/-- An agent that the cluster gave a uid. -/
def uniqueAgent : Agent.Resource where
  metadata := { (default : ObjectMeta) with name := some "agent", uid := some "c2f5" }
  spec := default

/-- The setter of its owner reference. -/
def uniqueOwner : OwnerSetter :=
  match ownerSetter uniqueAgent uniqueAgent.spec with
  | .ok setter => setter
  | .error e => fun _ => .error e

/-- What its first pass leaves. -/
def firstScene : Scene :=
  (runIn .steady (applyDesiredState default ⟨"", ∅⟩ (some uniqueOwner)) {} ⟨{}, []⟩).2

theorem tended_firstScene : Tended "c2f5" firstScene.store ([] ++ firstScene.calls) := by
  unfold firstScene
  rcases hrun : runIn .steady (applyDesiredState default ⟨"", ∅⟩ (some uniqueOwner)) {} ⟨{}, []⟩
    with ⟨⟨r, m'⟩, w'⟩
  exact .pass .empty .steady (a := uniqueAgent) rfl rfl _ hrun

set_option maxRecDepth 10000 in
/-- After its cleanup the monitor is still stored, and goes away with the agent. -/
theorem nothing_orphaned_after_first_pass :
    ∃ deleted m' w', runIn .steady (deleteClusterScoped default) {} ⟨firstScene.store, []⟩
        = ((.ok deleted, m'), w') ∧
      (w'.store.get? (Component.monitor.place default)).isSome = true ∧
      ∀ p j, w'.store.get? p = some j → p.kind ∉ clusterScopedKinds ∧
        ∃ metadata, ownMetadata? j = some metadata ∧ metadata.ControlledBy "c2f5" := by
  let out := runIn .steady (deleteClusterScoped default) {} ⟨firstScene.store, []⟩
  have hout : (out.1.1.toBool && (out.2.store.get? (Component.monitor.place default)).isSome)
      = true := by
    decide +kernel
  rcases hcleanup : runIn .steady (deleteClusterScoped default) {} ⟨firstScene.store, []⟩
    with ⟨⟨_ | deleted, m'⟩, w'⟩ <;> simp only [out, hcleanup] at hout
  · cases hout
  · exact ⟨deleted, m', w', rfl, hout,
      (Tended.nothing_orphaned tended_firstScene hcleanup).1⟩

end AgentOperator.Dataplane
