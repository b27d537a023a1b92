import AgentOperator.Proofs.Placed

/-!
AgentOperator.Proofs.Anchors — webhooks that lead to an enforcer that is there.

An entry of a webhook configuration that the dataplane asks for `Leads` to the
enforcer in the namespace of the spec and trusts the authority it was given
(`leads_of_wanted`). It is `Anchored` in a store where that enforcer is `Hosted`:
its service and its deployment are stored, and the certificate beside them is of
that authority.
-/

namespace AgentOperator.Kube

/-- The entries of a webhook configuration. -/
def Object.entries : Object → List Webhook
  | .validatingWebhookConfiguration c | .mutatingWebhookConfiguration c => c.webhooks
  | _ => []

end AgentOperator.Kube

namespace AgentOperator.Dataplane

open Kube (Object Secret ServiceReference Webhook versionAtLeast)
open Store (Table)

/-! ## Webhooks that lead to an enforcer -/

/-- The enforcer is stored in a namespace, with a certificate of this authority. -/
structure Hosted (t : Table) (space : String) (ca : Bytes) : Prop where
  service : (t.get? ⟨.service, .namespaced space enforcerName⟩).isSome = true
  deployment : (t.get? ⟨.deployment, .namespaced space enforcerName⟩).isSome = true
  certificate : ∃ j secret, t.get? ⟨.secret, .namespaced space enforcerTlsName⟩ = some j ∧
    Secret.codec.decode j = .ok secret ∧
    (secret.data.getD ∅).get? TlsMaterial.caCertKey = some ca

/-- An entry is answered by the enforcer of a namespace, and trusts an authority. -/
structure Leads (space : String) (ca : Bytes) (w : Webhook) : Prop where
  service : ∃ ref : ServiceReference, w.clientConfig.service = some ref ∧
    ref.namespace = space ∧ ref.name = enforcerName
  authority : w.clientConfig.caBundle = some ca

/-- An entry leads to an enforcer that is stored in a namespace, and trusts the
authority of its certificate. -/
def Anchored (t : Table) (space : String) (w : Webhook) : Prop :=
  ∃ ca, Leads space ca w ∧ Hosted t space ca

variable {x : Setting} {c : Component} {kubelet : String} {s : Surroundings}
  {spec : Agent.Spec} {opts : ApplyOptions} {t : Table}

theorem entries_withMetadata (o : Object) (m : Kube.ObjectMeta) :
    (o.withMetadata m).entries = o.entries := by
  cases o <;> rfl

theorem validatingEntry_clientConfig (kubelet : String) (tls : TlsMaterial) (spec : Agent.Spec)
    (w : Webhook) : (validatingEntry kubelet tls spec w).clientConfig
      = (withEnforcerService spec.namespace "/validate" (withCaBundle tls.caCert w)).clientConfig := by
  rw [validatingEntry_eq]

theorem mutatingEntry_clientConfig (kubelet : String) (tls : TlsMaterial) (spec : Agent.Spec)
    (w : Webhook) : (mutatingEntry kubelet tls spec w).clientConfig
      = (withEnforcerService spec.namespace "/mutate" (withCaBundle tls.caCert w)).clientConfig := by
  rw [mutatingEntry_eq]

theorem Leads.of_clientConfig {space path : String} {ca : Bytes} {v w : Webhook}
    (h : v.clientConfig = (withEnforcerService space path (withCaBundle ca w)).clientConfig) :
    Leads space ca v := by
  refine ⟨?_, ?_⟩
  · rw [h]
    exact ⟨_, rfl, rfl, rfl⟩
  · rw [h]
    rfl

/-- Every entry of a webhook configuration that is wanted leads to the enforcer of
the spec. -/
theorem leads_of_wanted (hc : c ∈ webhooks) {tls : TlsMaterial} (htls : s.tls = some tls)
    (hopts : opts.Proper) {found : Option Object} {o : Object}
    (h : x.wanted c s spec opts found = .ok o) :
    ∀ w ∈ o.entries, Leads spec.namespace tls.caCert w := by
  obtain ⟨s', o₁, name, space, refs, hs', hchange, rfl, -, -⟩ := wanted_eq_ok hopts h
  rw [entries_withMetadata]
  generalize found.getD (c.emptyObject s.kubelet) = source at hchange
  intro w hw
  rcases List.mem_pair.1 hc with rfl | rfl
  · cases hs'
    cases hchange with
    | validatingWebhook d htls' =>
      cases htls.symm.trans htls'
      obtain ⟨entry, -, rfl⟩ := List.mem_map.1 hw
      exact .of_clientConfig (validatingEntry_clientConfig _ tls spec entry)
    | deployment d hp => cases hp
    | service d hp => cases hp
  · cases hs'
    cases hchange with
    | mutatingWebhook d htls' =>
      cases htls.symm.trans htls'
      obtain ⟨entry, -, rfl⟩ := List.mem_map.1 hw
      exact .of_clientConfig (mutatingEntry_clientConfig _ tls spec entry)
    | deployment d hp => cases hp
    | service d hp => cases hp

end AgentOperator.Dataplane
