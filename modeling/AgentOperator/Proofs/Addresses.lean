import AgentOperator.Api.Request
import AgentOperator.Kube.Object
import Mathlib.Data.List.Infix
import Mathlib.Data.List.Nodup

/-!
AgentOperator.Proofs.Addresses — where the API server has the objects of the store.

The store knows an object by its kind, its API generation, its namespace and its name
(`Address`), and the path of the object is made of these. No two addresses have one path
(`Address.path_injective`): the generations start in ways of which none continues
another (`rootOf_prefixFree`), and after them every part ends at the next slash
(`eq_of_append_slash`), up to the name, which may hold slashes of its own.
-/

namespace AgentOperator

namespace Kube.Kind

theorem mem_all (k : Kind) : k ∈ all := by
  cases k <;> decide

theorem plural_injective : Function.Injective plural := fun k l h =>
  List.inj_on_of_nodup_map (show (all.map plural).Nodup by decide) k.mem_all l.mem_all h

/-- The word for a kind is one part of a path, and none that has another meaning. -/
theorem plural_plain (k : Kind) : k.plural ≠ "namespaces" ∧ '/' ∉ k.plural.toList := by
  cases k <;> decide

end Kube.Kind

namespace Api

open Kube (Kind Object ObjectKey)

/-- A part of a path ends at the first slash behind it. -/
theorem eq_of_append_slash {x y s t : List Char} (hx : '/' ∉ x) (hy : '/' ∉ y)
    (h : x ++ '/' :: s = y ++ '/' :: t) : x = y ∧ s = t := by
  induction x generalizing y with
  | nil =>
    cases y with
    | nil => exact ⟨rfl, (List.cons.inj h).2⟩
    | cons d y => exact absurd ((List.cons.inj h).1 ▸ .head _) hy
  | cons c x ih =>
    cases y with
    | nil => exact absurd ((List.cons.inj h).1 ▸ .head _) hx
    | cons d y =>
      obtain ⟨rfl, hrest⟩ := List.cons.inj h
      obtain ⟨rfl, rfl⟩ := ih (fun hc => hx (.tail _ hc)) (fun hc => hy (.tail _ hc)) hrest
      exact ⟨rfl, rfl⟩

/-! ## Roots -/

/-- How the paths of an API version start. -/
def rootOf (apiVersion : String) : String :=
  (if '/' ∈ apiVersion.toList then "/apis/" else "/api/") ++ apiVersion ++ "/"

/-- The API versions of the objects in the store. -/
def servedVersions : List String :=
  ["v1", "apps/v1", "scheduling.k8s.io/v1", "scheduling.k8s.io/v1beta1",
    "scheduling.k8s.io/v1alpha1", "admissionregistration.k8s.io/v1",
    "admissionregistration.k8s.io/v1beta1"]

theorem apiVersion_mem (o : Object) : o.apiVersion ∈ servedVersions := by
  have hscheduling (v : Kube.SchedulingVersion) : v.apiVersion ∈ servedVersions := by
    cases v <;> decide
  have hadmission (v : Kube.AdmissionVersion) : v.apiVersion ∈ servedVersions := by
    cases v <;> decide
  have happs : "apps/v1" ∈ servedVersions := by decide
  have hcore : "v1" ∈ servedVersions := by decide
  cases o with
  | deployment d => exact happs
  | daemonSet d => exact happs
  | service s => exact hcore
  | secret s => exact hcore
  | configMap m => exact hcore
  | priorityClass p => exact hscheduling p.version
  | validatingWebhookConfiguration c => exact hadmission c.version
  | mutatingWebhookConfiguration c => exact hadmission c.version

/-- No root continues another. -/
theorem rootOf_prefixFree : ∀ v ∈ servedVersions, ∀ w ∈ servedVersions,
    (rootOf v).toList <+: (rootOf w).toList → v = w := by
  decide

/-! ## Addresses -/

/-- What the store knows an object by. -/
structure Address where
  kind : Kind
  apiVersion : String
  key : ObjectKey
deriving DecidableEq

namespace Address

variable {a b : Address}

/-- The collection that the object is in. -/
def collection (a : Address) : Collection :=
  { apiVersion := a.apiVersion, plural := a.kind.plural, space := a.key.namespace }

def path (a : Address) : String := a.collection.path ++ "/" ++ a.key.name

/-- There are objects of the kind in this generation, the name says something, and the
namespace is one part of a path. -/
structure Proper (a : Address) : Prop where
  served : ∃ o : Object, o.kind = a.kind ∧ o.apiVersion = a.apiVersion
  name_ne : a.key.name ≠ ""
  slashless : ∀ space, a.key.namespace = some space → '/' ∉ space.toList

/-- The path behind its root. -/
def tail (a : Address) : List Char :=
  match a.key.namespace with
  | some space =>
    "namespaces".toList ++ '/' :: (space.toList ++ '/' ::
      (a.kind.plural.toList ++ '/' :: a.key.name.toList))
  | none => a.kind.plural.toList ++ '/' :: a.key.name.toList

theorem path_toList (a : Address) : a.path.toList = (rootOf a.apiVersion).toList ++ a.tail := by
  obtain ⟨kind, apiVersion, space, name⟩ := a
  cases space <;>
    simp only [path, tail, collection, Collection.path, rootOf, String.toList_append,
      List.append_assoc] <;>
    rfl

theorem tail_injective (ha : a.Proper) (hb : b.Proper) (h : a.tail = b.tail) :
    a.kind = b.kind ∧ a.key = b.key := by
  obtain ⟨kind, apiVersion, space, name⟩ := a
  obtain ⟨kind', apiVersion', space', name'⟩ := b
  -- The kind and the name, where all that is before them is gone.
  have hend (h : kind.plural.toList ++ '/' :: name.toList
      = kind'.plural.toList ++ '/' :: name'.toList) : kind = kind' ∧ name = name' := by
    obtain ⟨hplural, hname⟩ := eq_of_append_slash kind.plural_plain.2 kind'.plural_plain.2 h
    exact ⟨Kind.plural_injective (String.toList_inj.1 hplural), String.toList_inj.1 hname⟩
  have hword : '/' ∉ "namespaces".toList := by decide
  cases space with
  | none =>
    cases space' with
    | none =>
      obtain ⟨rfl, rfl⟩ := hend h
      exact ⟨rfl, rfl⟩
    | some space' =>
      have hplural := (eq_of_append_slash kind.plural_plain.2 hword h).1
      exact absurd (String.toList_inj.1 hplural) kind.plural_plain.1
  | some space =>
    cases space' with
    | none =>
      have hplural := (eq_of_append_slash hword kind'.plural_plain.2 h).1
      exact absurd (String.toList_inj.1 hplural.symm) kind'.plural_plain.1
    | some space' =>
      obtain ⟨hspace, hrest⟩ := eq_of_append_slash (ha.slashless _ rfl) (hb.slashless _ rfl)
        (eq_of_append_slash hword hword h).2
      obtain ⟨rfl, rfl⟩ := hend hrest
      cases String.toList_inj.1 hspace
      exact ⟨rfl, rfl⟩

theorem Proper.apiVersion_mem (h : a.Proper) : a.apiVersion ∈ servedVersions := by
  obtain ⟨o, -, hversion⟩ := h.served
  exact hversion ▸ Api.apiVersion_mem o

/-- **No two addresses have one path.** -/
theorem path_injective (ha : a.Proper) (hb : b.Proper) (h : a.path = b.path) : a = b := by
  have hchars : (rootOf a.apiVersion).toList ++ a.tail = (rootOf b.apiVersion).toList ++ b.tail := by
    rw [← path_toList, ← path_toList, h]
  have hversion : a.apiVersion = b.apiVersion := by
    rcases List.prefix_or_prefix_of_prefix (List.prefix_append _ a.tail)
      (hchars ▸ List.prefix_append _ b.tail) with hpre | hpre
    · exact rootOf_prefixFree _ ha.apiVersion_mem _ hb.apiVersion_mem hpre
    · exact (rootOf_prefixFree _ hb.apiVersion_mem _ ha.apiVersion_mem hpre).symm
  rw [hversion] at hchars
  obtain ⟨hkind, hkey⟩ := tail_injective ha hb (List.append_cancel_left hchars)
  obtain ⟨kind, apiVersion, key⟩ := a
  obtain ⟨kind', apiVersion', key'⟩ := b
  cases hkind
  cases hkey
  cases hversion
  rfl

end Address

/-! ## Texts that do not end a path -/

/-- A text in which nothing starts a query or a fragment. -/
def PlainText (text : String) : Prop := text.toList.all (fun c => c != '?' && c != '#') = true

theorem plainText_append {s t : String} : PlainText (s ++ t) ↔ PlainText s ∧ PlainText t := by
  simp only [PlainText, String.toList_append, List.all_append, Bool.and_eq_true]

theorem plainText_rootOf : ∀ v ∈ servedVersions, PlainText (rootOf v) := by
  unfold PlainText
  decide

theorem plainText_plural (k : Kind) : PlainText k.plural := by
  cases k <;> rfl

namespace Address

variable {a : Address}

/-- Nothing but the namespace and the name could end the path of an address early. -/
theorem plainText_path (ha : a.Proper)
    (hspace : ∀ space, a.key.namespace = some space → PlainText space)
    (hname : PlainText a.key.name) : PlainText a.path := by
  have hmiddle : PlainText (match a.key.namespace with
      | some space => "namespaces/" ++ space ++ "/"
      | none => "") := by
    split
    · rename_i space h
      rw [plainText_append, plainText_append]
      exact ⟨⟨rfl, hspace space h⟩, rfl⟩
    · rfl
  refine plainText_append.2 ⟨plainText_append.2 ⟨?_, rfl⟩, hname⟩
  show PlainText (rootOf a.apiVersion ++ _ ++ a.kind.plural)
  rw [plainText_append, plainText_append]
  exact ⟨⟨plainText_rootOf _ ha.apiVersion_mem, hmiddle⟩, plainText_plural a.kind⟩

end Address

end Api

end AgentOperator
