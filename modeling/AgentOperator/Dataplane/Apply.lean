import AgentOperator.Dataplane.Mutate
import AgentOperator.Dataplane.Outside

/-!
AgentOperator.Dataplane.Apply — bringing the stored object of one component to
the spec: read once, then write at most once.
-/

namespace AgentOperator.Dataplane

open Kube (Object ObjectKey ObjectMeta)

/-- Puts an owner on an object's metadata, or refuses to. -/
abbrev OwnerSetter := ObjectMeta → Except Error ObjectMeta

structure ApplyOptions where
  /-- An object that is there is left alone. -/
  createOnly : Bool := false
  setOwner : Option OwnerSetter := none

/-- The object with an owner set, if one is to be set. -/
def ApplyOptions.own (opts : ApplyOptions) (o : Object) : Except Error Object :=
  match opts.setOwner with
  | none => .ok o
  | some setOwner => o.withMetadata <$> setOwner o.metadata

/-- The object under the name and namespace of a key. -/
def named (key : ObjectKey) (o : Object) : Object :=
  o.withMetadata { o.metadata with name := some key.name, «namespace» := key.namespace }

/-- The surroundings as the mutation of an object needs them: only the secret of the
enforcer asks for a certificate to be issued, and only for an object that is a secret. -/
def Component.surroundings (c : Component) (s : Surroundings) (spec : Agent.Spec) (o : Object) :
    Task Surroundings :=
  match c with
  | .enforcerTls => do
    let _ ← Task.ofExcept o.asSecret
    return { s with issued := .ok (← Task.issueTls (enforcerServiceKey spec)) }
  | _ => pure s

/-- The object as the component wants it. -/
def Component.desired (c : Component) (s : Surroundings) (spec : Agent.Spec) (o : Object) :
    Task Object := do
  let s ← c.surroundings s spec o
  Task.ofExcept (c.mutate s spec o)

/-- What was found or written, and whether it was written. -/
structure Applied where
  changed : Bool
  object : Object

/-- Brings the stored object of a component to the spec. A missing object is
made under its key and then owned; one that is there is written only if it
differs from what was read. -/
def apply (c : Component) (s : Surroundings) (spec : Agent.Spec) (opts : ApplyOptions) :
    Task Applied := do
  let key := c.key spec
  let template := c.emptyObject s.kubelet
  match ← Task.get template key with
  | none =>
    let o ← c.desired s spec template
    let o ← Task.ofExcept (opts.own (named key o))
    Task.create o
    return ⟨true, o⟩
  | some observed =>
    if opts.createOnly then return ⟨false, observed⟩
    let o ← c.desired s spec observed
    let o ← Task.ofExcept (opts.own o)
    if o = observed then return ⟨false, o⟩
    Task.update o
    return ⟨true, o⟩

/-- Deletes the stored object of a component, and tells whether there was one. -/
def deleteIfExists (c : Component) (kubelet : String) (spec : Agent.Spec) : Task Bool := do
  match ← Task.get (c.emptyObject kubelet) (c.key spec) with
  | none => return false
  | some o =>
    Task.delete o
    return true

end AgentOperator.Dataplane
