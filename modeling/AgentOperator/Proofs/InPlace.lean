import AgentOperator.Proofs.History

/-!
AgentOperator.Proofs.InPlace — bringing an object to a spec by writing into it.

An edit in place works on the one object there is: when it fails half way, what
it has written by then stays written. Here the mutation of every component is
laid out as such an edit, one write after the other. It makes of an object what
`Component.mutate` makes of it, and when it fails it has written nothing
(`Component.failed_edit_changes_nothing`): every check comes before the first
write, and that of the kind before all others.
-/

namespace AgentOperator

/-! ## Edits -/

/-- An edit of a value in place. A failure does not take back what was written
before it. -/
abbrev Edit (σ α : Type) := ExceptT Error (StateM σ) α

namespace Edit

variable {σ τ α β : Type} {x : Edit σ Unit}

/-- How an edit of a value comes out, and the value it leaves. -/
def on (x : Edit σ α) (v : σ) : Except Error α × σ := x.run.run v

def write (f : σ → σ) : Edit σ Unit := modify f

def writes : List (σ → σ) → Edit σ Unit
  | [] => pure ()
  | f :: fs => do
    write f
    writes fs

/-- Goes on with what was found, or fails for want of it. -/
def check (r : Except Error α) : Edit σ α := ExceptT.mk (pure r)

/-- An edit of what a value holds in one form. A value of another form is
refused and stays as it is. -/
def inside (view : σ → Except Error τ) (wrap : τ → σ) (x : Edit τ α) : Edit σ α :=
  ExceptT.mk fun v =>
    match view v with
    | .ok held => ((x.on held).1, wrap (x.on held).2)
    | .error e => (.error e, v)

example (e : Error) : on (do write (· + 1); check (.error e) : Edit Nat Unit) 2 = (.error e, 3) :=
  rfl

theorem on_bind (x : Edit σ α) (f : α → Edit σ β) (v : σ) :
    (x >>= f).on v = match x.on v with
      | (.ok a, v') => (f a).on v'
      | (.error e, v') => (.error e, v') := by
  show (match x.on v with
    | (r, v') => (ExceptT.bindCont f r).run v') = _
  cases x.on v with
  | mk r v' => cases r <;> rfl

theorem on_write (f : σ → σ) (v : σ) : (write f).on v = (.ok (), f v) := rfl

theorem on_check (r : Except Error α) (v : σ) : (check r : Edit σ α).on v = (r, v) := rfl

theorem on_inside_ok {view : σ → Except Error τ} {v : σ} {held : τ} (h : view v = .ok held)
    (wrap : τ → σ) (x : Edit τ α) :
    (inside view wrap x).on v = ((x.on held).1, wrap (x.on held).2) := by
  show (match view v with
    | .ok held => ((x.on held).1, wrap (x.on held).2)
    | .error e => (.error e, v)) = _
  rw [h]

theorem on_inside_error {view : σ → Except Error τ} {v : σ} {e : Error} (h : view v = .error e)
    (wrap : τ → σ) (x : Edit τ α) : (inside view wrap x).on v = (.error e, v) := by
  show (match view v with
    | .ok held => ((x.on held).1, wrap (x.on held).2)
    | .error e => (.error e, v)) = _
  rw [h]

/-- Writes do not fail, and every one works on what those before it left. -/
theorem on_writes (fs : List (σ → σ)) (v : σ) :
    (writes fs).on v = (.ok (), fs.foldl (fun v f => f v) v) := by
  induction fs generalizing v with
  | nil => rfl
  | cons f fs ih => rw [writes, on_bind, on_write]; exact ih (f v)

/-- The new value, or a failure and the old one. -/
def settle (v : σ) : Except Error σ → Except Error Unit × σ
  | .ok v' => (.ok (), v')
  | .error e => (.error e, v)

/-- An edit that leaves of a value what `f` makes of it, and the value itself
where `f` fails. -/
def AllOrNothing (x : Edit σ Unit) (f : σ → Except Error σ) : Prop :=
  ∀ v, x.on v = settle v (f v)

theorem allOrNothing_writes {fs : List (σ → σ)} {f : σ → σ}
    (h : ∀ v, fs.foldl (fun v f => f v) v = f v) :
    AllOrNothing (writes fs) fun v => .ok (f v) := by
  intro v
  rw [on_writes, h, settle]

/-- Whatever comes after a check is all or nothing with the check before it. -/
theorem AllOrNothing.of_check {r : Except Error α} {x : α → Edit σ Unit}
    {f : α → σ → Except Error σ} (h : ∀ a, AllOrNothing (x a) (f a)) :
    AllOrNothing (check r >>= x) fun v => r >>= fun a => f a v := by
  intro v
  rw [on_bind, on_check]
  cases r with
  | ok a => exact h a v
  | error e => rfl

/-- What is taken out of a value goes back into it unchanged. -/
theorem AllOrNothing.inside {view : σ → Except Error τ} {wrap : τ → σ} {x : Edit τ Unit}
    {f : τ → Except Error τ} (hview : ∀ {v held}, view v = .ok held → v = wrap held)
    (h : x.AllOrNothing f) :
    (Edit.inside view wrap x).AllOrNothing fun v => view v >>= fun held => wrap <$> f held := by
  intro v
  show _ = settle v (view v >>= fun held => wrap <$> f held)
  cases hv : view v with
  | error e => exact on_inside_error hv wrap x
  | ok held =>
    rw [on_inside_ok hv, h held]
    show _ = settle v (wrap <$> f held)
    cases f held with
    | ok held' => rfl
    | error e => rw [hview hv]; rfl

/-- Writes into what a value holds, after a check that needs nothing of it. -/
theorem allOrNothing_checked {view : σ → Except Error τ} {wrap : τ → σ} {r : Except Error α}
    {fs : α → List (τ → τ)} {f : α → τ → τ}
    (hview : ∀ {v held}, view v = .ok held → v = wrap held)
    (hfs : ∀ a held, (fs a).foldl (fun held g => g held) held = f a held) :
    (Edit.inside view wrap (do writes (fs (← check r)))).AllOrNothing fun v => do
      let held ← view v
      let a ← r
      return wrap (f a held) := by
  intro v
  rw [AllOrNothing.inside hview (.of_check fun a => allOrNothing_writes (hfs a)) v]
  cases view v <;> cases r <;> rfl

end Edit

end AgentOperator

namespace AgentOperator.Dataplane

open Kube (DaemonSet Deployment Object PodSpec Service ServicePort ServiceSpec Webhook
  WebhookConfiguration)
open Workload

/-! ## The writes of every component -/

/-- Where a workload of a type holds what labels and annotations go to. -/
structure Workplace (W : Type) where
  labelled : W → Labelled
  put : Labelled → W → W
  labelled_put : ∀ l w, labelled (put l w) = l
  put_put : ∀ l l' w, put l (put l' w) = put l w

namespace Workplace

variable {W : Type} (p : Workplace W)

def onLabelled (f : Labelled → Labelled) (w : W) : W := p.put (f (p.labelled w)) w

/-- Writes into the pod of a workload, which is made if there is none. -/
def onPod (f : PodSpec → PodSpec) : W → W :=
  p.onLabelled fun l =>
    { l with template := { l.template with spec := some (f (l.template.spec.getD {})) } }

theorem onLabelled_onLabelled (f g : Labelled → Labelled) (w : W) :
    p.onLabelled g (p.onLabelled f w) = p.onLabelled (fun l => g (f l)) w := by
  simp only [onLabelled, p.labelled_put, p.put_put]

/-- Writes into the pod one after the other are one write into it. -/
theorem foldl_onPod (f : PodSpec → PodSpec) (fs : List (PodSpec → PodSpec)) (w : W) :
    (fs.map p.onPod).foldl (fun w f => f w) (p.onPod f w)
      = p.onPod (fun pod => fs.foldl (fun pod f => f pod) (f pod)) w := by
  induction fs generalizing f with
  | nil => rfl
  | cons g fs ih =>
    have honce : p.onPod g (p.onPod f w) = p.onPod (fun pod => g (f pod)) w := by
      rw [onPod, onPod, onLabelled_onLabelled]
      rfl
    rw [List.map_cons, List.foldl_cons, honce]
    exact ih fun pod => g (f pod)

end Workplace

def deploymentWorkplace : Workplace Deployment where
  labelled d := ⟨d.metadata, (d.spec.getD {}).selector, (d.spec.getD {}).template⟩
  put l d :=
    { d with
      metadata := l.metadata
      spec := some { d.spec.getD {} with selector := l.selector, template := l.template } }
  labelled_put _ _ := rfl
  put_put _ _ _ := rfl

def daemonSetWorkplace : Workplace DaemonSet where
  labelled d := ⟨d.metadata, (d.spec.getD {}).selector, (d.spec.getD {}).template⟩
  put l d :=
    { d with
      metadata := l.metadata
      spec := some { d.spec.getD {} with selector := l.selector, template := l.template } }
  labelled_put _ _ := rfl
  put_put _ _ _ := rfl

/-- An account, the priority of the dataplane and the secrets to pull images
with. -/
def podIdentityWrites (spec : Agent.Spec) (account : String) (pullSecrets : List String) :
    List (PodSpec → PodSpec) :=
  [fun pod => { pod with serviceAccountName := some account },
    fun pod => { pod with priorityClassName := some priorityClassName },
    withImagePullSecrets spec pullSecrets]

def DeploymentPlan.writes (p : DeploymentPlan) (spec : Agent.Spec) :
    List (Deployment → Deployment) :=
  [fun d => { d with spec := some { d.spec.getD {} with replicas := some p.replicas } },
    deploymentWorkplace.onLabelled (·.withLabels (desiredLabels p.name p.labels)),
    deploymentWorkplace.onLabelled (·.withAnnotations p.annotations p.templateAnnotations)] ++
    (podIdentityWrites spec p.account p.pullSecrets ++
      [VolumePlan.applyAll p.volumes,
        withPlacement p.nodeSelector p.affinity,
        withSingleContainer p.name (p.container.apply spec)]).map deploymentWorkplace.onPod

theorem DeploymentPlan.foldl_writes (p : DeploymentPlan) (spec : Agent.Spec) (d : Deployment) :
    (p.writes spec).foldl (fun d f => f d) d = p.apply spec d := rfl

/-- The writes into a pod of the node agent. -/
def nodeAgentPodWrites (spec : Agent.Spec) : List (PodSpec → PodSpec) :=
  let runtime := spec.components.runtimeProtection
  podIdentityWrites spec nodeAgentAccount runtime.sensor.image.pullSecrets ++
    [fun pod =>
        { pod with
          dnsPolicy := some (if runtime.enabled then "ClusterFirstWithHostNet" else "ClusterFirst") },
      fun pod => { pod with hostNetwork := if runtime.enabled then some true else none },
      fun pod => { pod with hostPID := if runtime.enabled then some true else none },
      withNodeAgentVolumes spec,
      fun pod =>
        { pod with
          tolerations := Keyed.unlessEmpty spec.components.settings.daemonSetsTolerations },
      fun pod =>
        { pod with containers := selectContainers (wantedContainers spec) pod.containers },
      modifyContainer sensorContainerName (withSensor spec),
      modifyContainer scannerContainerName (withScanner spec),
      withNodeTerms [onLinux]]

theorem foldl_nodeAgentPodWrites (spec : Agent.Spec) (pod : PodSpec) :
    (nodeAgentPodWrites spec).foldl (fun pod f => f pod) pod = withNodeAgentPod spec pod := by
  simp only [nodeAgentPodWrites, podIdentityWrites, List.cons_append, List.nil_append,
    List.foldl_cons, List.foldl_nil, withNodeAgentPod, withPodIdentity]

def nodeAgentWrites (spec : Agent.Spec) : List (DaemonSet → DaemonSet) :=
  [daemonSetWorkplace.onLabelled
      (·.withLabels (desiredLabels nodeAgentName (nodeAgentLabels spec))),
    daemonSetWorkplace.onLabelled
      (·.withAnnotations (nodeAgentAnnotations spec) (nodeAgentTemplateAnnotations spec))] ++
    (nodeAgentPodWrites spec).map daemonSetWorkplace.onPod

theorem foldl_nodeAgentWrites (spec : Agent.Spec) (d : DaemonSet) :
    (nodeAgentWrites spec).foldl (fun d f => f d) d = withNodeAgent spec d := by
  have hpod : withNodeAgentPod spec = fun pod =>
      (nodeAgentPodWrites spec).foldl (fun pod f => f pod) pod :=
    funext fun pod => (foldl_nodeAgentPodWrites spec pod).symm
  obtain ⟨f, fs, hwrites⟩ : ∃ f fs, nodeAgentPodWrites spec = f :: fs := ⟨_, _, rfl⟩
  rw [nodeAgentWrites, List.foldl_append, withNodeAgent, hpod, hwrites]
  exact daemonSetWorkplace.foldl_onPod f fs _

def ServicePlan.writes (p : ServicePlan) : List (Service → Service) :=
  let onSpec (f : ServiceSpec → ServiceSpec) (s : Service) : Service :=
    { s with spec := some (f (s.spec.getD {})) }
  let onPort (f : ServicePort → ServicePort) (s : ServiceSpec) : ServiceSpec :=
    { s with ports := some (match s.ports with
      | some [port] => [f port]
      | _ => [f {}]) }
  [fun s =>
      { s with
        metadata := { s.metadata with labels := if p.labels.isEmpty then none else some p.labels } },
    onSpec fun s => { s with type := some "ClusterIP" },
    onSpec fun s => { s with clusterIP := if p.headless then some "None" else s.clusterIP },
    onSpec fun s => { s with selector := some (.ofList [(appNameLabel, p.workload)]) },
    onSpec (onPort fun port => { port with name := some p.portName }),
    onSpec (onPort fun port => { port with port := p.port }),
    onSpec (onPort fun port => { port with targetPort := some (.string p.portName) })]

theorem ServicePlan.foldl_writes (p : ServicePlan) (s : Service) :
    p.writes.foldl (fun s f => f s) s = p.apply s := by
  rcases s with ⟨m, _ | s, status⟩
  · rfl
  · rcases hp : s.ports with _ | _ | ⟨port, _ | _⟩ <;>
      simp [writes, apply, hp]

/-- The writes into a webhook configuration: labels, which entries there are,
and each of these. -/
def webhookWrites (labels : Dict String) (names : List String) (entry : Webhook → Webhook) :
    List (WebhookConfiguration → WebhookConfiguration) :=
  [withConfigurationLabels labels,
    withEntries names,
    fun w => { w with webhooks := w.webhooks.map entry }]

/-! ## Components -/

/-- The mutation of a component as an edit of the object in place. -/
def Component.edit (c : Component) (s : Surroundings) (spec : Agent.Spec) : Edit Object Unit :=
  let enforcer := spec.components.basic.enforcer
  let deployment (p : DeploymentPlan) : Edit Object Unit :=
    .inside Object.asDeployment .deployment (.writes (p.writes spec))
  let service (p : ServicePlan) : Edit Object Unit :=
    .inside Object.asService .service (.writes p.writes)
  match c with
  | .configMap =>
    .inside Object.asConfigMap .configMap
      (.writes [fun m => { m with data := some (configMapData spec) }])
  | .registrySecret =>
    .inside Object.asSecret .secret do
      let r ← .check s.requiredRegistry
      .writes
        [fun secret => { secret with type := some r.type },
          fun secret => { secret with data := some r.data }]
  | .priorityClass =>
    .inside Object.asPriorityClass .priorityClass <| .writes
      [fun p => { p with value := (withPriority p).value },
        fun p => { p with globalDefault := (withPriority p).globalDefault },
        fun p => { p with description := (withPriority p).description }]
  | .monitor => deployment (monitorPlan spec)
  | .enforcerTls =>
    .inside Object.asSecret .secret do
      let tls ← .check s.issued
      .writes [fun secret => { secret with data := some tls.toSecretData }]
  | .enforcerService => service (enforcerServicePlan spec)
  | .enforcer => deployment (enforcerPlan spec)
  | .validatingWebhook =>
    .inside Object.asValidatingWebhooks .validatingWebhookConfiguration do
      let tls ← .check s.requiredTls
      .writes (webhookWrites enforcer.labels [validatingResourcesName, validatingNamespacesName]
        (validatingEntry s.kubelet tls spec))
  | .mutatingWebhook =>
    .inside Object.asMutatingWebhooks .mutatingWebhookConfiguration do
      let tls ← .check s.requiredTls
      .writes (webhookWrites enforcer.labels [mutatingResourcesName]
        (mutatingEntry s.kubelet tls spec))
  | .stateReporter => deployment (stateReporterPlan spec)
  | .resolverService => service (resolverServicePlan spec)
  | .resolver => deployment (resolverPlan s.nodes spec)
  | .imageScanningReporterService => service (imageScanningReporterServicePlan spec)
  | .imageScanningReporter => deployment (imageScanningReporterPlan spec)
  | .nodeAgent => .inside Object.asDaemonSet .daemonSet (.writes (nodeAgentWrites spec))

variable {c : Component} {s : Surroundings} {spec : Agent.Spec} {o : Object}

/-- The edit of a deployment is all or nothing. -/
theorem DeploymentPlan.allOrNothing (p : DeploymentPlan) (spec : Agent.Spec) :
    (Edit.inside Object.asDeployment .deployment (.writes (p.writes spec))).AllOrNothing
      fun o => do return .deployment (p.apply spec (← o.asDeployment)) :=
  .inside asDeployment_eq_ok.1 (Edit.allOrNothing_writes (p.foldl_writes spec))

theorem ServicePlan.allOrNothing (p : ServicePlan) :
    (Edit.inside Object.asService .service (.writes p.writes)).AllOrNothing
      fun o => do return .service (p.apply (← o.asService)) :=
  .inside asService_eq_ok.1 (Edit.allOrNothing_writes p.foldl_writes)

/-- The edit makes of every object what the mutation makes of it, and leaves the
object alone where the mutation fails. -/
theorem Component.edit_allOrNothing (c : Component) (s : Surroundings) (spec : Agent.Spec) :
    (c.edit s spec).AllOrNothing (c.mutate s spec) := by
  cases c with
  | configMap => exact .inside asConfigMap_eq_ok.1 (Edit.allOrNothing_writes fun _ => rfl)
  | registrySecret => exact Edit.allOrNothing_checked asSecret_eq_ok.1 fun _ _ => rfl
  | priorityClass => exact .inside asPriorityClass_eq_ok.1 (Edit.allOrNothing_writes fun _ => rfl)
  | enforcerTls => exact Edit.allOrNothing_checked asSecret_eq_ok.1 fun _ _ => rfl
  | validatingWebhook =>
    exact Edit.allOrNothing_checked asValidatingWebhooks_eq_ok.1 fun _ _ => rfl
  | mutatingWebhook =>
    exact Edit.allOrNothing_checked asMutatingWebhooks_eq_ok.1 fun _ _ => rfl
  | nodeAgent =>
    exact .inside asDaemonSet_eq_ok.1 (Edit.allOrNothing_writes (foldl_nodeAgentWrites spec))
  | enforcerService | resolverService | imageScanningReporterService =>
    exact ServicePlan.allOrNothing _
  | monitor | enforcer | stateReporter | resolver | imageScanningReporter =>
    exact DeploymentPlan.allOrNothing _ spec

/-! ## Failures -/

/-- Whether the component goes without a fact from outside that it needs. -/
def Component.Lacks (c : Component) (s : Surroundings) : Prop :=
  match c with
  | .registrySecret => s.registry = none
  | .validatingWebhook | .mutatingWebhook => s.tls = none
  | .enforcerTls => ∃ e, s.issued = .error e
  | _ => False

theorem Component.lacks_iff_refusal : c.Lacks s ↔ ∃ e, c.refusal s = some e := by
  cases c <;> simp only [Lacks, refusal, reduceCtorEq, exists_false]
  case registrySecret => cases h : s.registry <;> simp [Surroundings.requiredRegistry, h]
  case enforcerTls => cases s.issued <;> simp
  case validatingWebhook => cases h : s.tls <;> simp [Surroundings.requiredTls, h]
  case mutatingWebhook => cases h : s.tls <;> simp [Surroundings.requiredTls, h]

theorem Component.mutate_fails_iff :
    (∃ e, c.mutate s spec o = .error e) ↔ o.kind ≠ c.kind ∨ c.Lacks s := by
  by_cases hkind : o.kind = c.kind
  · simp only [mutate_eq_error_iff hkind, hkind, lacks_iff_refusal, ne_eq, not_true_eq_false,
      false_or]
  · exact iff_of_true ⟨_, mutate_of_kind_ne hkind⟩ (.inl hkind)

/-- **A failed edit changes nothing.** Carried out in place, write after write,
the mutation of a component comes out on an object as `Component.mutate` does.
It fails exactly if the object is of another kind, for which reason it then
fails, or if the component goes without a fact from outside that it needs. And
whenever it fails, the object is left as it was. -/
theorem Component.failed_edit_changes_nothing (c : Component) (s : Surroundings)
    (spec : Agent.Spec) (o : Object) :
    (c.edit s spec).on o = Edit.settle o (c.mutate s spec o) ∧
      ((∃ e, ((c.edit s spec).on o).1 = .error e) ↔ o.kind ≠ c.kind ∨ c.Lacks s) ∧
      (o.kind ≠ c.kind →
        ((c.edit s spec).on o).1 = .error (.unexpectedKind c.kind o.kind)) ∧
      ∀ e, ((c.edit s spec).on o).1 = .error e → ((c.edit s spec).on o).2 = o := by
  have hedit := c.edit_allOrNothing s spec o
  refine ⟨hedit, ?_, ?_, ?_⟩
  · rw [hedit, ← mutate_fails_iff]
    cases c.mutate s spec o <;> simp [Edit.settle]
  · intro hkind
    rw [hedit, mutate_of_kind_ne hkind]
    rfl
  · intro e
    rw [hedit]
    cases c.mutate s spec o with
    | ok o' => intro h; cases h
    | error e' => exact fun _ => rfl

end AgentOperator.Dataplane
