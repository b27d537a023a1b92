import AgentOperator.Proofs.Deployments

/-!
AgentOperator.Proofs.RootCertificates — what is repaired of the volume with the root
certificates.

A volume with a secret or with a path of the node has the name or the path written every
time. The volume with the root certificates has only its items written every time, and the
config map that they are taken from only where it has none (`VolumePlan.source?_change_iff`).
So a volume that was pointed to another config map goes on showing the certificates from
there (`rootCAs_repaired_iff`).
-/

namespace AgentOperator.Dataplane

open Kube (Volume)
open Workload

/-! ## Sources -/

/-- What a planned volume is to be made of: a secret, a path of the node, or a config map. -/
def VolumePlan.source : VolumePlan → String
  | .secret _ source => source
  | .hostPath _ path => path
  | .rootCAs => configMapName

/-- What a volume is made of, of what the plan has in mind. -/
def VolumePlan.source? : VolumePlan → Volume → Option String
  | .secret _ _, v => v.secret.bind (·.secretName)
  | .hostPath _ _, v => v.hostPath.map (·.path)
  | .rootCAs, v => v.configMap.map (·.name)

/-- Every volume is made of what was planned, but the one with the root certificates only if
it had no other config map. -/
theorem VolumePlan.source?_change_iff (p : VolumePlan) (v : Volume) :
    p.source? (p.entry.change v) = some p.source
      ↔ (p = .rootCAs → ∀ name, p.source? v = some name → name = p.source) := by
  cases p with
  | secret name source => exact iff_of_true rfl nofun
  | hostPath name path => exact iff_of_true rfl nofun
  | rootCAs => cases hmap : v.configMap <;> simp [source?, source, VolumePlan.entry, hmap]

end AgentOperator.Dataplane

namespace AgentOperator.Workload

open Dataplane
open Kube (KeyToPath PodSpec Volume)

/-! ## Items -/

/-- The volume shows one item, the file with the root certificates. -/
def ProjectsRootCAs (v : Volume) : Prop :=
  ∃ source item, v.configMap = some source ∧ source.items = some [item] ∧
    item.key = rootCAsFile ∧ item.path = rootCAsFile

/-- Whatever items there were, one is left. -/
theorem exists_rootCAsItems (items : List KeyToPath) :
    ∃ item, rootCAsItems items = [item] ∧ item.key = rootCAsFile ∧ item.path = rootCAsFile := by
  match items with
  | [] => exact ⟨_, rfl, rfl, rfl⟩
  | [item] =>
    by_cases h : item.key = rootCAsFile
    · exact ⟨{ item with path := rootCAsFile }, by simp only [rootCAsItems, if_pos h], h, rfl⟩
    · exact ⟨{ key := rootCAsFile, path := rootCAsFile }, by simp only [rootCAsItems, if_neg h],
        rfl, rfl⟩
  | _ :: _ :: _ => exact ⟨_, rfl, rfl, rfl⟩

theorem projectsRootCAs_change (v : Volume) :
    ProjectsRootCAs (VolumePlan.rootCAs.entry.change v) := by
  obtain ⟨item, hitems, hkey, hpath⟩ := exists_rootCAsItems
    ((v.configMap.getD { name := configMapName, defaultMode := some volumeMode }).items.getD [])
  exact ⟨_, item, rfl, congrArg some hitems, hkey, hpath⟩

/-! ## Repair -/

/-- The volumes of a pod. -/
def volumesOf (pod : PodSpec) : List Volume := pod.volumes.getD []

/-- The volume with the root certificates that a pod has, or an empty one. -/
def rootCAsOf (pod : PodSpec) : Volume :=
  ((volumesOf pod).find? (namedVolume rootCAsVolume)).getD { name := rootCAsVolume }

theorem withRootCAsVolume_eq (pod : PodSpec) :
    withRootCAsVolume pod
      = { pod with volumes := some (VolumePlan.rootCAs.entry.write (volumesOf pod)) } :=
  VolumePlan.rootCAs.apply_eq pod

/-- **What is repaired of the root certificates.** For every pod, the volume that has them
projects just their file, and comes from the dataplane's config map just if it did before or
came from none. Volumes of other names stay as they are and in their order, as does all else
of the pod, and writing the volume again changes nothing. -/
theorem rootCAs_repaired_iff (pod : PodSpec) :
    ∃ left v, withRootCAsVolume pod = { pod with volumes := some left } ∧
      left.filter (namedVolume rootCAsVolume)
        = v :: ((volumesOf pod).filter (namedVolume rootCAsVolume)).tail ∧
      ProjectsRootCAs v ∧
      (v.configMap.map (·.name) = some configMapName
        ↔ ∀ name, (rootCAsOf pod).configMap.map (·.name) = some name → name = configMapName) ∧
      { v with configMap := (rootCAsOf pod).configMap } = rootCAsOf pod ∧
      (left.filter fun w => !namedVolume rootCAsVolume w)
        = (volumesOf pod).filter (fun w => !namedVolume rootCAsVolume w) ∧
      volumeNaming.names left
        = (if rootCAsVolume ∈ volumeNaming.names (volumesOf pod) then
            volumeNaming.names (volumesOf pod)
          else volumeNaming.names (volumesOf pod) ++ [rootCAsVolume]) ∧
      withRootCAsVolume (withRootCAsVolume pod) = withRootCAsVolume pod := by
  let entry := VolumePlan.rootCAs.entry
  have hsource := VolumePlan.rootCAs.source?_change_iff (rootCAsOf pod)
  have htwice : entry.write (entry.write (volumesOf pod)) = entry.write (volumesOf pod) :=
    entry.write_write (volumesOf pod)
  refine ⟨entry.write (volumesOf pod), entry.change (rootCAsOf pod), withRootCAsVolume_eq pod,
    entry.filter_write _, projectsRootCAs_change _, ?_, rfl, entry.filter_not_write _,
    entry.names_write _, ?_⟩
  · exact hsource.trans (forall_prop_of_true rfl)
  · rw [withRootCAsVolume_eq (withRootCAsVolume pod), withRootCAsVolume_eq pod]
    exact congrArg (fun left => { pod with volumes := some left }) htwice

/-- A pod whose root certificates come from a config map. -/
def showingFrom (configMap : String) : PodSpec :=
  { volumes := some
      [{ name := rootCAsVolume
         configMap := some
          { name := configMap, items := some [{ key := rootCAsFile, path := rootCAsFile }] } }] }

/-- Root certificates from elsewhere are not replaced. -/
theorem rootCAs_from_elsewhere_kept :
    rootCAsVolume ∈ volumeNaming.names (volumesOf (showingFrom "other")) ∧
      ¬ ∀ v ∈ volumesOf (withRootCAsVolume (showingFrom "other")), v.name = rootCAsVolume →
        v.configMap.map (·.name) = some configMapName := by
  decide

end AgentOperator.Workload
