import AgentOperator.Agent.Spec
import AgentOperator.Dataplane.Names
import AgentOperator.Keyed
import AgentOperator.Kube.Pod

/-!
AgentOperator.Workload.Labels — labels, annotations and pull secrets.

A workload, its selector and its pod template have one set of labels. Were the
selector not to match the template, the workload could not be updated at all.
-/

namespace AgentOperator.Workload

open Kube (LabelSelector LocalObjectReference ObjectMeta PodSpec PodTemplateSpec)
open Dataplane

/-! ## Maps -/

/-- Forces every desired entry and keeps all others; a missing map is made only
to hold something. -/
def enforceEntries (actual : Option (Dict String)) (desired : Dict String) :
    Option (Dict String) :=
  if desired.isEmpty then actual else some ((actual.getD ∅).overlay desired)

/-- Whether some desired entry is missing or different. -/
def lacksEntries (actual : Option (Dict String)) (desired : Dict String) : Bool :=
  desired.toList.any fun (k, v) => decide ((actual.getD ∅).get? k ≠ some v)

/-! ## Labels and annotations -/

/-- The labels of a component: the user's, and the name of the component. -/
def desiredLabels (name : String) (user : Dict String) : Dict String :=
  user.insert appNameLabel name

/-- What a workload holds that labels and annotations go to. -/
structure Labelled where
  metadata : ObjectMeta
  selector : LabelSelector
  template : PodTemplateSpec
deriving DecidableEq

namespace Labelled

def templateMeta (w : Labelled) : ObjectMeta := w.template.metadata.getD {}

/-- Writes one set of labels in all three places. -/
def withLabels (labels : Dict String) (w : Labelled) : Labelled where
  metadata := { w.metadata with labels := some labels }
  selector := { w.selector with matchLabels := some labels }
  template :=
    { w.template with metadata := some { w.templateMeta with labels := some labels } }

/-- Lays annotations over those of the object and of its template. -/
def withAnnotations (object template : Dict String) (w : Labelled) : Labelled where
  metadata :=
    { w.metadata with annotations := enforceEntries w.metadata.annotations object }
  selector := w.selector
  template :=
    { w.template with
      metadata := some
        { w.templateMeta with
          annotations := enforceEntries w.templateMeta.annotations template } }

end Labelled

/-! ## Pull secrets -/

/-- The registry secret if the operator makes it, the secrets of all
components, and the component's own. -/
def imagePullSecrets (spec : Agent.Spec) (own : List String) : List LocalObjectReference :=
  let settings := spec.components.settings
  let default := if settings.createDefaultImagePullSecrets then [registrySecretName] else []
  (default ++ settings.imagePullSecrets ++ own).map LocalObjectReference.mk

/-- Whether two lists of references differ: in length, or by a desired name
that is missing. -/
def referencesDiffer (actual desired : List LocalObjectReference) : Bool :=
  decide (actual.length ≠ desired.length) ||
    desired.any fun d => !actual.any fun a => decide (a.name = d.name)

def withImagePullSecrets (spec : Agent.Spec) (own : List String) (pod : PodSpec) : PodSpec :=
  let desired := imagePullSecrets spec own
  if referencesDiffer (pod.imagePullSecrets.getD []) desired then
    { pod with imagePullSecrets := Keyed.unlessEmpty desired }
  else pod

end AgentOperator.Workload
