import AgentOperator.Dataplane.Names
import AgentOperator.Keyed
import AgentOperator.Kube.Pod

/-!
AgentOperator.Workload.Volumes — volumes of pods and their mounts in
containers.

Both are looked up by name and put at the end of the list when missing. A list
that has not the expected number of entries is dropped first, so that entries
no longer wanted go away.
-/

namespace AgentOperator.Workload

open Kube (ConfigMapVolumeSource Container KeyToPath PodSpec Volume VolumeMount)
open Dataplane

/-! ## Volumes -/

def namedVolume (name : String) (v : Volume) : Bool := decide (v.name = name)

/-- Changes the volume of a name, which is put in if it is missing. -/
def withVolume (name : String) (change : Volume → Volume) (pod : PodSpec) : PodSpec :=
  { pod with
    volumes := some (Keyed.upsert (namedVolume name) { name } change (pod.volumes.getD [])) }

/-- Drops the volumes unless there are exactly so many. -/
def resetVolumesUnless (count : Nat) (pod : PodSpec) : PodSpec :=
  if (pod.volumes.getD []).length = count then pod else { pod with volumes := none }

/-- A path of the node; its type stays as it is. -/
def withHostPathVolume (name path : String) : PodSpec → PodSpec :=
  withVolume name fun v => { v with hostPath := some { v.hostPath.getD {} with path } }

/-- A secret that need not be there. -/
def withSecretVolume (name secret : String) : PodSpec → PodSpec :=
  withVolume name fun v =>
    { v with
      secret := some
        { v.secret.getD {} with
          secretName := some secret, defaultMode := some volumeMode, «optional» := some true } }

/-- Shows nothing but the root certificates. An item that does so already keeps
its mode. -/
def rootCAsItems (items : List KeyToPath) : List KeyToPath :=
  match items with
  | [item] =>
    if item.key = rootCAsFile then [{ item with path := rootCAsFile }]
    else [{ key := rootCAsFile, path := rootCAsFile }]
  | _ => [{ key := rootCAsFile, path := rootCAsFile }]

/-- The root certificates in the dataplane's config map. -/
def withRootCAsVolume : PodSpec → PodSpec :=
  withVolume rootCAsVolume fun v =>
    let source := v.configMap.getD { name := configMapName, defaultMode := some volumeMode }
    { v with
      configMap := some { source with items := some (rootCAsItems (source.items.getD [])) } }

/-! ## Mounts -/

def namedMount (name : String) (m : VolumeMount) : Bool := decide (m.name = name)

/-- Drops the mounts unless there are exactly so many. -/
def resetMountsUnless (count : Nat) (c : Container) : Container :=
  if (c.volumeMounts.getD []).length = count then c else { c with volumeMounts := none }

/-- Changes the mount of a volume, which is put in if it is missing. -/
def changeMount (name : String) (change : VolumeMount → VolumeMount) (c : Container) : Container :=
  { c with
    volumeMounts :=
      some (Keyed.upsert (namedMount name) { name } change (c.volumeMounts.getD [])) }

/-- Mounts a volume at a path. -/
def withMount (name mountPath : String) (readOnly : Bool) : Container → Container :=
  changeMount name fun m => { m with mountPath, readOnly := some readOnly }

def withRootCAsMount : Container → Container := withMount rootCAsVolume rootCAsDirectory true

end AgentOperator.Workload
