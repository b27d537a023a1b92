import AgentOperator.Proofs.Drift
import AgentOperator.Proofs.Leftovers

/-!
AgentOperator.Proofs.Precedence — which source a variable of a container comes from.

An environment has the last variable of each name that its sources write
(`Env.mem_build_iff`). In every workload what the user gives is written last
(`Component.IsWorkload.envSources_eq`), so it is what its containers are left with, and
all else is as the built-in steps have it (`Component.precedence`). Of a variable that
shows a resource nothing but the resource is compared: a second source beside it stays.
-/

namespace AgentOperator.Workload

open Kube (Container EnvVar)

variable {sources : List EnvSource} {name : String} {e : Env} {v : EnvVar} {vs : List EnvVar}

/-! ## The last of a name -/

/-- All variables that sources write, in the order in which they are written. -/
def written (sources : List EnvSource) : List EnvVar := sources.flatMap EnvSource.vars

/-- The last variable of a name. -/
def lastOf (name : String) (vs : List EnvVar) : Option EnvVar :=
  vs.reverse.find? fun v => decide (v.name = name)

theorem lastOf_append (name : String) (vs ws : List EnvVar) :
    lastOf name (vs ++ ws) = (lastOf name ws).or (lastOf name vs) := by
  rw [lastOf, List.reverse_append, List.find?_append, lastOf, lastOf]

theorem lastOf_cons (name : String) (v : EnvVar) (vs : List EnvVar) :
    lastOf name (v :: vs) = (lastOf name vs).or (if v.name = name then some v else none) := by
  rw [← List.singleton_append, lastOf_append]
  by_cases h : v.name = name <;> simp [lastOf, h]

theorem mem_of_lastOf (h : lastOf name vs = some v) : v ∈ vs ∧ v.name = name := by
  have hfound := List.find?_some h
  rw [decide_eq_true_eq] at hfound
  exact ⟨List.mem_reverse.1 (List.mem_of_find?_eq_some h), hfound⟩

theorem exists_lastOf_iff : (∃ v, lastOf name vs = some v) ↔ ∃ v ∈ vs, v.name = name := by
  rw [← Option.isSome_iff_exists, lastOf, List.find?_isSome]
  simp only [List.mem_reverse, decide_eq_true_eq]

/-- The only variable of its name is the last. -/
theorem lastOf_of_unique (h : v ∈ vs) (hunique : ∀ w ∈ vs, w.name = v.name → w = v) :
    lastOf v.name vs = some v := by
  obtain ⟨w, hw⟩ := exists_lastOf_iff.2 ⟨v, h, rfl⟩
  obtain ⟨hmem, hname⟩ := mem_of_lastOf hw
  rw [hw, hunique w hmem hname]

theorem Env.get?_foldl_write_eq (name : String) (vs : List EnvVar) (e : Env) :
    (vs.foldl write e).vars.get? name = (lastOf name vs).or (e.vars.get? name) := by
  induction vs generalizing e with
  | nil => rfl
  | cons v vs ih =>
    rw [List.foldl_cons, ih, write, Dict.get?_insert, lastOf_cons, Option.or_assoc]
    by_cases h : v.name = name <;> simp [h]

theorem Env.get?_ofSources_eq (name : String) (sources : List EnvSource) :
    (ofSources sources).vars.get? name = lastOf name (written sources) := by
  have hwrites : ofSources sources = (written sources).foldl write empty :=
    List.foldl_flatMap.symm
  rw [hwrites, get?_foldl_write_eq]
  exact Option.or_none

/-- An environment has the last variable of each name that is written. -/
theorem Env.mem_build_iff :
    v ∈ (ofSources sources).build ↔ lastOf v.name (written sources) = some v := by
  rw [mem_build]
  constructor
  · rintro ⟨k, hk⟩
    rw [(proper_ofSources sources).named k v hk, ← get?_ofSources_eq]
    exact hk
  · intro h
    exact ⟨v.name, by rw [get?_ofSources_eq, h]⟩

/-! ## What the user gives -/

/-- The source is what the user gave. -/
def EnvSource.isUser : EnvSource → Bool
  | .user _ => true
  | _ => false

theorem lastOf_user (name : String) (given : Dict String) :
    lastOf name (EnvSource.user given).vars = (given.get? name).map (plainVar name) := by
  cases hgiven : given.get? name with
  | none =>
    refine List.find?_eq_none.2 fun v hv => ?_
    rw [decide_eq_true_eq]
    exact silent_user hgiven v (List.mem_reverse.1 hv)
  | some text =>
    have hmem : plainVar name text ∈ (EnvSource.user given).vars :=
      List.mem_map.2 ⟨(name, text), Entries.find?_eq_some hgiven, rfl⟩
    refine lastOf_of_unique hmem fun w hw hname => ?_
    obtain ⟨⟨k, t⟩, he, rfl⟩ := List.mem_map.1 hw
    have hget : given.get? k = some t := Entries.find?_of_mem given.sorted he
    rw [show k = name from hname, hgiven] at hget
    cases hget
    exact congrArg (plainVar · text) hname

/-- An environment to which the user's variables come last has those, and what is written
before under other names. -/
theorem Env.mem_build_user {builtIn : List EnvSource} {user : Dict String} {d : EnvVar} :
    d ∈ (ofSources (builtIn ++ [.user user])).build
      ↔ ((user.get? d.name).map (plainVar d.name)).or (lastOf d.name (written builtIn))
        = some d := by
  have hwritten : written (builtIn ++ [.user user])
      = written builtIn ++ (EnvSource.user user).vars := by
    rw [written, List.flatMap_append, List.flatMap_singleton, written]
  rw [mem_build_iff, hwritten, lastOf_append, lastOf_user]

theorem Env.mem_build_of_given {builtIn : List EnvSource} {user : Dict String} {text : String}
    (h : user.get? name = some text) :
    plainVar name text ∈ (ofSources (builtIn ++ [.user user])).build := by
  rw [mem_build_user, show (plainVar name text).name = name from rfl, h]
  rfl

theorem Env.mem_build_of_not_given {builtIn : List EnvSource} {user : Dict String} {d : EnvVar}
    (h : user.get? d.name = none) :
    d ∈ (ofSources (builtIn ++ [.user user])).build
      ↔ lastOf d.name (written builtIn) = some d := by
  rw [mem_build_user, h]
  rfl

/-! ## What a container is left with -/

/-- Variables with the names of an environment, each of which resembles the one of its
name, and is it up to the divisor if nothing stands beside what shows a resource. -/
structure Env.LeftOf (e : Env) (stored left : List EnvVar) : Prop where
  names : (left.map (·.name)).Perm (e.build.map (·.name))
  each : ∀ v ∈ left, ∃ d ∈ e.build, v.name = d.name ∧ v.Resembles d ∧
    ((∀ w ∈ stored, w.Sole) → v.undivided = d.undivided)

theorem Env.Proper.leftOf (he : e.Proper) {vars : Option (List EnvVar)}
    (hnodup : ((vars.getD []).map (·.name)).Nodup) :
    e.LeftOf (vars.getD []) ((settledEnv e vars).getD []) := by
  rw [settledEnv]
  by_cases h : e.matchesVars (vars.getD []) = true
  · have hpasses := he.matchesVars_iff.1 h
    rw [if_pos h]
    refine ⟨hpasses.names_perm hnodup, fun v hv => ?_⟩
    obtain ⟨d, hd, hname, hsame⟩ := hpasses.2 v hv
    exact ⟨d, hd, hname, hsame, fun hsole =>
      hsame.undivided_eq (hsole v hv) (he.plain_of_mem_build hd) hname⟩
  · rw [if_neg h, Keyed.getD_unlessEmpty]
    exact ⟨.refl _, fun v hv => ⟨v, hv, rfl, .inl rfl, fun _ => rfl⟩⟩

theorem Env.LeftOf.exists_iff {stored left : List EnvVar} (h : e.LeftOf stored left) :
    (∃ v ∈ left, v.name = name) ↔ ∃ d ∈ e.build, d.name = name := by
  simpa only [List.mem_map] using h.names.mem_iff (a := name)

theorem Env.LeftOf.reads {builtIn : List EnvSource} {user : Dict String} {stored : List EnvVar}
    {text : String} {k : Container}
    (h : (ofSources (builtIn ++ [.user user])).LeftOf stored (k.env.getD []))
    (hgiven : user.get? name = some text) : k.Reads name text := by
  have hplain : ∀ v ∈ k.env.getD [], v.name = name → v = plainVar name text := by
    intro v hv hname
    obtain ⟨d, hd, hvd, hsame, -⟩ := h.each v hv
    rw [mem_build_user, ← hvd, hname, hgiven] at hd
    cases hd
    -- A plain variable shows no resource, so only itself resembles it.
    rcases hsame with rfl | ⟨_, _, _, hresource, _⟩
    · rfl
    · cases hresource
  obtain ⟨v, hv, hname⟩ := h.exists_iff.2 ⟨_, mem_build_of_given hgiven, rfl⟩
  exact ⟨hplain v hv hname ▸ hv, hplain⟩

/-- Where the variables of a container come from that is brought to a spec: what the user
gave is there as it was given, and all else is there that built-in steps write, as the last
of them has it. -/
structure Sourced (builtIn : List EnvSource) (user : Dict String) (k k₁ : Container) : Prop where
  distinct : ((k₁.env.getD []).map (·.name)).Nodup
  given : ∀ name text, user.get? name = some text → k₁.Reads name text
  others : ∀ name, user.get? name = none →
    ((∃ v ∈ k₁.env.getD [], v.name = name) ↔ ∃ v ∈ written builtIn, v.name = name)
  steps : (∀ v ∈ k.env.getD [], v.Sole) →
    ∀ v ∈ k₁.env.getD [], user.get? v.name = none →
      ∃ d, lastOf v.name (written builtIn) = some d ∧ v.undivided = d.undivided

theorem sourced_of_env {builtIn : List EnvSource} {user : Dict String} {k k₁ : Container}
    (henv : k₁.env = settledEnv (.ofSources (builtIn ++ [.user user])) k.env)
    (hnodup : ((k.env.getD []).map (·.name)).Nodup) : Sourced builtIn user k k₁ := by
  have he : (Env.ofSources (builtIn ++ [.user user])).Proper := Env.proper_ofSources _
  have hleft := he.leftOf hnodup
  rw [← henv] at hleft
  refine ⟨hleft.names.nodup_iff.2 he.build_names_nodup, fun name text => hleft.reads,
    fun name hnone => hleft.exists_iff.trans (Iff.trans ?_ exists_lastOf_iff),
    fun hsole v hv hnone => ?_⟩
  · constructor
    · rintro ⟨d, hd, rfl⟩
      exact ⟨d, (Env.mem_build_of_not_given hnone).1 hd⟩
    · rintro ⟨d, hd⟩
      obtain ⟨-, rfl⟩ := mem_of_lastOf hd
      exact ⟨d, (Env.mem_build_of_not_given hnone).2 hd, rfl⟩
  · obtain ⟨d, hd, hname, -, hundivided⟩ := hleft.each v hv
    rw [hname] at hnone ⊢
    exact ⟨d, (Env.mem_build_of_not_given hnone).1 hd, hundivided hsole⟩

end AgentOperator.Workload

namespace AgentOperator.Dataplane

open Kube (Container DaemonSet EnvVar Object)
open Workload

variable {c : Component} {s : Surroundings} {spec : Agent.Spec} {nodes : Option UInt64}
  {o o₁ : Object}

/-! ## The sources of a workload -/

/-- The sources of the environment of one of a workload's containers. -/
def Component.envSources (c : Component) (nodes : Option UInt64) (spec : Agent.Spec)
    (container : String) : List EnvSource :=
  match c.deploymentPlan? nodes spec with
  | some p => p.container.env
  | none => if container = sensorContainerName then sensorEnv spec else scannerEnv spec

/-- Those of them that the user has no hand in. -/
def Component.builtIn (c : Component) (nodes : Option UInt64) (spec : Agent.Spec)
    (container : String) : List EnvSource :=
  (c.envSources nodes spec container).filter fun source => !source.isUser

/-- The variables that a spec gives for one of a workload's containers. -/
def Component.userEnv (c : Component) (spec : Agent.Spec) (container : String) : Dict String :=
  let parts := spec.components
  match c with
  | .monitor => parts.basic.monitor.env
  | .enforcer => parts.basic.enforcer.env
  | .stateReporter => parts.basic.stateReporter.env
  | .resolver => parts.runtimeProtection.resolver.env
  | .imageScanningReporter => parts.clusterScanning.imageScanningReporter.env
  | .nodeAgent =>
    if container = sensorContainerName then parts.runtimeProtection.sensor.env
    else parts.clusterScanning.clusterScanner.env
  | _ => ∅

/-- What the user gives comes last, and nowhere else. -/
theorem Component.IsWorkload.envSources_eq (hc : c.IsWorkload) (nodes : Option UInt64)
    (spec : Agent.Spec) (container : String) :
    c.envSources nodes spec container
      = c.builtIn nodes spec container ++ [.user (c.userEnv spec container)] := by
  cases c
  case nodeAgent =>
    simp only [builtIn, envSources, deploymentPlan?, userEnv]
    by_cases hsensor : container = sensorContainerName
    · simp only [if_pos hsensor]
      rfl
    · simp only [if_neg hsensor, scannerEnv, engineEnv]
      split <;> rfl
  all_goals first
    | rfl
    | exact absurd hc (by simp [IsWorkload, kind])

/-! ## Workloads -/

theorem withAgent_env (nodes : Option UInt64) {stored : List Container} {k : Container}
    (hk : k ∈ selectContainers (wantedContainers spec) stored) :
    (withAgent spec k).env
      = settledEnv (.ofSources (Component.nodeAgent.envSources nodes spec k.name)) k.env := by
  have hne : ¬ scannerContainerName = sensorContainerName := by decide
  have hwanted := (complete_selectContainers (wantedContainers spec) stored).mem_wanted
    (wantedContainers_nodup spec) hk
  have hname : k.name = sensorContainerName ∨ k.name = scannerContainerName := by
    simp only [wantedContainers, List.mem_append, List.mem_ite_nil_right,
      List.mem_singleton] at hwanted
    exact hwanted.imp And.right And.right
  simp only [withAgent, Component.envSources, Component.deploymentPlan?]
  rcases hname with h | h
  · simp only [h, if_true, withSensor_env]
  · simp only [h, if_neg hne, if_true, withScanner_env]

/-- What a workload makes of the environments of the containers it starts from. -/
theorem Component.Change.envs (hc : c.IsWorkload) (h : Component.Change s spec c o o₁) :
    o₁.pod.containers.map (fun k => (k.name, k.env))
      = (c.keptContainers s.nodes spec o.pod.containers).map fun k =>
          (k.name, settledEnv (.ofSources (c.envSources s.nodes spec k.name)) k.env) := by
  cases h with
  | @deployment _ d p hp =>
    have hproper := Component.deploymentPlan?_proper hp
    obtain ⟨change, hsecure, -⟩ := hproper.container.secure_settles
    have hpod : podOf (p.apply spec d) = p.applyPod spec (podOf d) := rfl
    rw [Object.pod_deployment, Object.pod_deployment, hpod,
      DeploymentPlan.applyPod_eq hproper.volumes_ne_nil]
    simp only [keptContainers, envSources, hp, DeploymentPlan.settledContainer,
      ContainerPlan.apply_eq spec hproper.container.mounts_ne_nil hsecure]
    rfl
  | nodeAgent d =>
    have hplans : Component.nodeAgent.deploymentPlan? s.nodes spec = none := rfl
    simp only [pod_withNodeAgent_containers, keptContainers, hplans, List.map_map]
    refine List.map_congr_left fun k hk => ?_
    simp only [Function.comp_apply, withAgent_name, withAgent_env s.nodes hk]
  | service d hp =>
    rw [hc.servicePlan?_eq_none] at hp
    cases hp
  | _ => exact absurd hc (by simp [IsWorkload, kind])

/-- **Which source wins.** An environment that is put together from sources is in the order
of names and has what was written last of each. Where the names of a container that a
workload starts from do not repeat, it is left with what the user gives for it, and else
with what the last built-in step has. -/
theorem Component.precedence (hc : c.IsWorkload) (h : c.mutate s spec o = .ok o₁) :
    (∀ sources, (Env.ofSources sources).build.Pairwise (fun v w => v.name < w.name) ∧
      ∀ v, v ∈ (Env.ofSources sources).build ↔ lastOf v.name (written sources) = some v) ∧
    List.Forall₂
      (fun k k₁ => k₁.name = k.name ∧ (((k.env.getD []).map (·.name)).Nodup →
        Sourced (c.builtIn s.nodes spec k.name) (c.userEnv spec k.name) k k₁))
      (c.keptContainers s.nodes spec o.pod.containers) o₁.pod.containers := by
  refine ⟨fun sources => ⟨(Env.proper_ofSources sources).build_sorted, fun v =>
    Env.mem_build_iff⟩, ?_⟩
  have henvs := (c.change_of_mutate h).envs hc
  rw [eq_comm, ← List.forall₂_eq_eq_eq, List.forall₂_map_left_iff,
    List.forall₂_map_right_iff] at henvs
  refine henvs.imp fun k k₁ heq => ?_
  obtain ⟨hname, henv⟩ := Prod.mk.inj heq
  rw [hc.envSources_eq] at henv
  exact ⟨hname.symm, sourced_of_env henv.symm⟩

/-- A spec of which the node agent only has the scanner, and that gives it some
variables. -/
def scanningWith (given : Dict String) : Agent.Spec :=
  { account := "acc"
    clusterName := "c"
    version := "1.0.0"
    components :=
      { runtimeProtection := { enabled := false }
        clusterScanning := { clusterScanner := { env := given } } } }

/-- A node agent whose scanner has some variables. -/
def scannerHolding (vars : List EnvVar) : DaemonSet :=
  { spec := some
      { template :=
          { spec := some
              { containers := [{ name := scannerContainerName, env := some vars }] } } } }

theorem keptContainers_scannerHolding (given : Dict String) (vars : List EnvVar) :
    Component.nodeAgent.keptContainers none (scanningWith given)
        (Object.daemonSet (scannerHolding vars)).pod.containers
      = [{ name := scannerContainerName, env := some vars }] := by
  rfl

/-- Of two stored variables the one that the user gives has the user's value afterwards, and
the other is gone. -/
theorem precedence_account :
    Component.nodeAgent.IsWorkload ∧
      ∃ o₁ k₁, Component.nodeAgent.mutate {}
          (scanningWith ((∅ : Dict String).insert "OCTARINE_ACCOUNT" "mine"))
          (.daemonSet (scannerHolding
            [plainVar "OCTARINE_ACCOUNT" "theirs", plainVar "OUTDATED" "1"])) = .ok o₁ ∧
        o₁.pod.containers = [k₁] ∧ k₁.Reads "OCTARINE_ACCOUNT" "mine" ∧
        ∀ v ∈ k₁.env.getD [], v.name ≠ "OUTDATED" := by
  have h : Component.Change {}
      (scanningWith ((∅ : Dict String).insert "OCTARINE_ACCOUNT" "mine")) .nodeAgent
      (.daemonSet (scannerHolding
        [plainVar "OCTARINE_ACCOUNT" "theirs", plainVar "OUTDATED" "1"])) _ := .nodeAgent _
  obtain ⟨-, hleft⟩ := Component.precedence (.inr rfl) h.mutate
  rw [keptContainers_scannerHolding] at hleft
  obtain ⟨k₁, rest, ⟨-, hsourced⟩, hrest, hcontainers⟩ := List.forall₂_cons_left_iff.1 hleft
  cases hrest
  have hk₁ := hsourced (by decide)
  refine ⟨.inr rfl, _, k₁, h.mutate, hcontainers, hk₁.given _ _ rfl, fun v hv hname => ?_⟩
  obtain ⟨w, hw, hwname⟩ := (hk₁.others "OUTDATED" rfl).1 ⟨v, hv, hname⟩
  exact absurd hwname (by revert w; decide)

/-- A variable that shows a resource is given a second source. -/
def alsoNamed (v : EnvVar) : EnvVar :=
  if v.resource?.isSome then
    { v with
      valueFrom := v.valueFrom.map fun source =>
        { source with fieldRef := some { fieldPath := "metadata.name" } } }
  else v

theorem alsoNamed_name (v : EnvVar) : (alsoNamed v).name = v.name := by
  unfold alsoNamed
  split <;> rfl

theorem alsoNamed_resembles (v : EnvVar) : (alsoNamed v).Resembles v := by
  unfold alsoNamed
  split
  · rename_i h
    obtain ⟨r, hr⟩ := Option.isSome_iff_exists.1 h
    refine .inr ⟨r, r, ?_, hr, rfl, rfl⟩
    rcases v with ⟨name, value, _ | source⟩
    · cases hr
    · exact hr
  · exact .inl rfl

/-- The second source goes unseen. -/
theorem settledEnv_alsoNamed {e : Env} (he : e.Proper) :
    settledEnv e (some (e.build.map alsoNamed)) = some (e.build.map alsoNamed) := by
  refine if_pos (he.matchesVars_iff.2 ⟨List.length_map .., fun v hv => ?_⟩)
  obtain ⟨d, hd, rfl⟩ := List.mem_map.1 hv
  exact ⟨d, hd, alsoNamed_name d, alsoNamed_resembles d⟩

/-- A scanner whose variables have the right names and resources, and of which those that
show a resource have a second source: they keep it. -/
theorem alsoNamed_stays :
    let spec := scanningWith ∅
    let vars := (Env.ofSources (scannerEnv spec)).build.map alsoNamed
    let builtIn := Component.nodeAgent.builtIn none spec scannerContainerName
    (vars.map (·.name)).Nodup ∧ Component.nodeAgent.userEnv spec scannerContainerName = ∅ ∧
      ∃ o₁ k₁, Component.nodeAgent.mutate {} spec (.daemonSet (scannerHolding vars)) = .ok o₁ ∧
        o₁.pod.containers = [k₁] ∧ k₁.name = scannerContainerName ∧
        ¬ ∀ v ∈ k₁.env.getD [], ∃ d, lastOf v.name (written builtIn) = some d ∧
          v.undivided = d.undivided := by
  intro spec vars builtIn
  let limits := resourceVar "CLUSTER_SCANNER_LIMITS_MEMORY" scannerContainerName "limits.memory"
  have hwritten : lastOf limits.name (written (scannerEnv spec)) = some limits := rfl
  have hbuiltIn : lastOf limits.name (written builtIn) = some limits := rfl
  have hleft : (Object.daemonSet (withNodeAgent spec (scannerHolding vars))).pod.containers
      = [withScanner spec { name := scannerContainerName, env := some vars }] := by
    rw [pod_withNodeAgent_containers]
    rfl
  have huser : Component.nodeAgent.userEnv spec scannerContainerName = ∅ := rfl
  have hdiffer : (alsoNamed limits).undivided ≠ limits.undivided := by decide
  -- Nothing else of the spec matters, and the environment of this one is a large term.
  clear_value limits builtIn spec
  have he : (Env.ofSources (scannerEnv spec)).Proper := Env.proper_ofSources _
  have hnames : vars.map (·.name) = (Env.ofSources (scannerEnv spec)).build.map (·.name) := by
    rw [List.map_map]
    exact List.map_congr_left fun v _ => alsoNamed_name v
  have henv : (withScanner spec { name := scannerContainerName, env := some vars }).env
      = some vars := (withScanner_env spec _).trans (settledEnv_alsoNamed he)
  have h : Component.Change {} spec .nodeAgent (.daemonSet (scannerHolding vars)) _ := .nodeAgent _
  refine ⟨hnames ▸ he.build_names_nodup, huser, _, _, h.mutate, hleft, withScanner_name .., ?_⟩
  rw [henv, Option.getD_some]
  intro hall
  obtain ⟨d, hd, heq⟩ := hall (alsoNamed limits)
    (List.mem_map_of_mem (Env.mem_build_iff.2 hwritten))
  rw [alsoNamed_name, hbuiltIn] at hd
  cases hd
  exact hdiffer heq

end AgentOperator.Dataplane
