import AgentOperator.Proofs.Interruption

/-!
AgentOperator.Proofs.Certificates — the certificate of the enforcer over many
passes.

A certificate is asked for and written only where there is none, and no pass
changes one that is there, though others may take it away or replace it in
between. A pass that succeeds leaves every entry of the webhooks with the
authority of the certificate that is stored by then (`Turns.certificates`).

A certificate that lacks a key is never made anew either. A pass that comes to
such a one fails and leaves the webhooks as they are, also when they are there
(`webhooks_of_missing_key`).
-/

namespace AgentOperator.Dataplane

open Kube (Object Secret ownKey)
open Pass
open Store (Place Table)

variable {x : Setting} {kubelet : String} {s : Surroundings} {spec : Agent.Spec}
  {opts : ApplyOptions} {registry : RegistryCredentials} {setOwner : Option OwnerSetter}
  {m m' m₁ m₂ : Memory} {w w' w₁ w₂ : Scene} {t u : Table}

/-! ## Certificates that stay -/

/-- Another writer stores any value under its own key, or takes one away. -/
inductive PlacedEdit (t : Table) : Table → Prop where
  | put {p : Place} {j : Json} (hj : ownKey j = p.key) : PlacedEdit t (t.put p j)
  | erase (p : Place) : PlacedEdit t (t.erase p)

theorem PlacedEdit.placed (h : PlacedEdit t u) (ht : Placed t) : Placed u := by
  cases h with
  | put hj => exact ht.put hj
  | erase p => exact ht.erase p

/-- **Certificates are stable.** After any turns of passes, cleanups and other
writers, a pass asks for a certificate, or writes one, only where there is none,
and leaves those that are there as they are. If it succeeds, every entry of a
webhook leads to the enforcer of the spec and trusts the authority of the
certificate that is stored there at the end. -/
theorem Turns.certificates {r : Except Error Bool} (h : Turns PlacedEdit t u) (ht : Placed t)
    (hopts : ApplyOptions.Proper { setOwner })
    (hrun : runIn x (applyDesiredState spec registry setOwner) m ⟨u, []⟩ = ((r, m'), w')) :
    (∀ v ∈ Pass.moments x (applyDesiredState spec registry setOwner) m ⟨u, []⟩,
      SparesCertificates spec v.scene.store v.request) ∧
    (∀ spec', (u.get? (Component.enforcerTls.place spec')).isSome = true →
      w'.store.get? (Component.enforcerTls.place spec')
        = u.get? (Component.enforcerTls.place spec')) ∧
    ∀ changed, r = .ok changed →
      ∃ kubelet m₁, runIn x kubeletVersion m ⟨u, []⟩ = ((.ok kubelet, m₁), ⟨u, []⟩) ∧
        ∀ c ∈ webhooks, c.Secured kubelet spec w'.store := by
  have hu : Placed u := h.placed (fun hv hedit => hedit.placed hv) ht
  have htreads : Treads x spec Component.all (fun _ => True)
      (applyDesiredState spec registry setOwner)
      fun _ t => ∀ c : Component, (t.get? (c.place spec)).isSome = true ↔ c.Due spec t :=
    treads_applyDesiredState hopts
  refine ⟨fun v hv => (htreads.moment hu trivial v hv).2, fun spec' hthere => ?_, ?_⟩
  · exact (htreads.after hu trivial hrun).1.get?_certificate hu hthere
  · rintro changed rfl
    rw [applyDesiredState_eq] at hrun
    obtain ⟨kubelet, m₁, w₁, hkubelet, hrest⟩ := runIn_bind_eq_ok.1 hrun
    cases runIn_kubeletVersion_scene hkubelet
    have hknown : Treads x spec Component.all (fun _ => True)
        (applyKnown kubelet spec registry setOwner) fun _ t =>
          (∀ c : Component, (t.get? (c.place spec)).isSome = true ↔ c.Due spec t) ∧
            ∀ c ∈ webhooks, c.Secured kubelet spec t := treads_applyKnown hopts
    exact ⟨kubelet, m₁, hkubelet, ((hknown.after hu trivial hrest).2 changed rfl).2⟩

/-- The secret of the certificate with this data. -/
def certificateWith (data : Option (Dict Bytes)) : Object :=
  named (Component.enforcerTls.key default) (.secret { data })

/-- Blank webhooks beside an enforcer with a replica that is ready and this
certificate. -/
def enforcerWith (data : Option (Dict Bytes)) : Table :=
  let deployment := named (Component.enforcer.key default)
    (.deployment { status := some { readyReplicas := some 1 } })
  ((blankWebhooks "v1.20.0" default).put (Component.enforcerTls.place default)
    (certificateWith data).encode).put (Component.enforcer.place default) deployment.encode

theorem ownKey_certificateWith (data : Option (Dict Bytes)) :
    ownKey (certificateWith data).encode = (Component.enforcerTls.place default).key := by
  have hknown : (Object.secret { data }).Known "" := Kube.ObjectMeta.known_default
  exact ownKey_named hknown

theorem placed_enforcerWith (data : Option (Dict Bytes)) : Placed (enforcerWith data) := by
  have hknown : (Object.deployment { status := some { readyReplicas := some 1 } }).Known "" := by
    refine ⟨Kube.ObjectMeta.known_default, fun _ hs => (by cases hs), fun s hs => ?_⟩
    cases hs
    exact Rest.sound_default _
  exact (orderly_blankWebhooks.placed.put (ownKey_certificateWith data)).put (ownKey_named hknown)

/-- An outside that issues no certificate. -/
def Setting.withoutIssuer : Setting :=
  { Setting.steady with certificate := fun _ => .error (.preconditionMissing "no issuer") }

set_option maxRecDepth 10000 in
/-- Someone else replaces the certificate, and a pass takes it over where none could
be issued. -/
theorem certificates_of_others :
    ∃ u changed kubelet m' w', Turns PlacedEdit (enforcerWith none) u ∧
      runIn .withoutIssuer (applyDesiredState default ⟨"", ∅⟩ none) {} ⟨u, []⟩
        = ((.ok changed, m'), w') ∧
      (u.get? (Component.enforcerTls.place default)).isSome = true ∧
      w'.store.get? (Component.enforcerTls.place default)
        = u.get? (Component.enforcerTls.place default) ∧
      ∀ c ∈ webhooks, c.Secured kubelet default w'.store := by
  let data := TlsMaterial.toSecretData { caCert := [1] }
  let u := (enforcerWith none).put (Component.enforcerTls.place default)
    (certificateWith data).encode
  have hturns : Turns PlacedEdit (enforcerWith none) u :=
    .single (.others (.put (ownKey_certificateWith data)))
  have hthere : (u.get? (Component.enforcerTls.place default)).isSome = true := by
    rw [Table.get?_put, if_pos rfl]
    rfl
  have hok : (runIn .withoutIssuer (applyDesiredState default ⟨"", ∅⟩ none) {} ⟨u, []⟩).1.1.toBool
      = true := by
    decide +kernel
  rcases hrun : runIn .withoutIssuer (applyDesiredState default ⟨"", ∅⟩ none) {} ⟨u, []⟩
    with ⟨⟨_ | changed, m'⟩, w'⟩
  · rw [hrun] at hok
    cases hok
  · obtain ⟨-, hsame, hsecured⟩ := hturns.certificates (placed_enforcerWith none)
      (fun _ h => by cases h) hrun
    obtain ⟨kubelet, -, -, hsecured⟩ := hsecured changed rfl
    exact ⟨u, changed, kubelet, m', w', hturns, hrun, hthere, hsame default hthere, hsecured⟩

/-! ## Certificates that cannot be used -/

/-- The keys that the data of a certificate has to have. -/
def certificateKeys : List String :=
  [TlsMaterial.caCertKey, TlsMaterial.caKeyKey, TlsMaterial.signedCertKey, TlsMaterial.keyKey]

/-- The first of the keys that is missing. -/
def missingKey? (data : Dict Bytes) : Option String :=
  certificateKeys.find? fun key => (data.get? key).isNone

theorem missingKey?_isSome_iff {data : Dict Bytes} :
    (missingKey? data).isSome = true ↔ ∃ key ∈ certificateKeys, data.get? key = none := by
  simp only [missingKey?, List.find?_isSome, Option.isNone_iff_eq_none]

/-- A certificate is refused for the first key that it lacks. -/
theorem ofSecretData_of_missing {data : Dict Bytes} {key : String}
    (h : missingKey? data = some key) : TlsMaterial.ofSecretData data
      = .error (.preconditionMissing ("tls secret is missing the " ++ key ++ " key")) := by
  unfold missingKey? certificateKeys at h
  unfold TlsMaterial.ofSecretData TlsMaterial.entry
  rcases hca : data.get? TlsMaterial.caCertKey with _ | ca
  · simp only [List.find?_cons, hca, Option.isNone_none] at h
    cases h
    rfl
  rcases hcaKey : data.get? TlsMaterial.caKeyKey with _ | caKey
  · simp only [List.find?_cons, hca, hcaKey, Option.isNone_some, Option.isNone_none] at h
    cases h
    rfl
  rcases hcert : data.get? TlsMaterial.signedCertKey with _ | cert
  · simp only [List.find?_cons, hca, hcaKey, hcert, Option.isNone_some, Option.isNone_none] at h
    cases h
    rfl
  rcases hkey : data.get? TlsMaterial.keyKey with _ | k
  · simp only [List.find?_cons, hca, hcaKey, hcert, hkey, Option.isNone_some,
      Option.isNone_none] at h
    cases h
    rfl
  · simp only [List.find?_cons, hca, hcaKey, hcert, hkey, Option.isNone_some, List.find?_nil] at h
    cases h

/-- An enforcer that is ready fails on a certificate that lacks a key, before anything
is done about the webhooks. -/
theorem runIn_enforcerWebhooks_of_missing {objects : EnforcerObjects} {secret : Secret}
    {key : String} (hanswering : Answering (.ok objects))
    (hsecret : objects.secret.object.asSecret = .ok secret)
    (hmissing : missingKey? (secret.data.getD ∅) = some key) :
    runIn x (enforcerWebhooks s spec opts objects) m w
      = ((.error (.preconditionMissing ("tls secret is missing the " ++ key ++ " key")), m), w) := by
  obtain ⟨objects', ready, hobjects, hready, hmany⟩ := hanswering
  cases hobjects
  unfold enforcerWebhooks
  rw [hsecret, hready]
  simp only [ofExcept_ok_bind, if_neg hmany]
  rw [runIn_bind, applyWebhooks, ofSecretData_of_missing hmissing, runIn_bind, runIn_ofTask]
  rfl

/-- **Webhooks beside a certificate that lacks a key.** In a pass that comes to an
enforcer with a replica that is ready, but with a certificate that lacks a key, the
first such key is the error of the pass and every webhook is left as it was. So both
are gone at the end only if neither was there. -/
theorem webhooks_of_missing_key {r : Except Error Bool} {objects : EnforcerObjects}
    {secret : Secret}
    (hstart : runIn x (untilEnforcer spec registry setOwner) m ⟨t, []⟩ = ((.ok kubelet, m₁), w₁))
    -- The steps of the enforcer succeed, and it has a replica that is ready.
    (hsteps : runIn x (enforcerSteps { kubelet, registry := some registry } spec { setOwner }) m₁ w₁
      = ((.ok objects, m₂), w₂)) (hanswering : Answering (.ok objects))
    -- What is stored as its certificate lacks a key, or has no data at all.
    (hsecret : objects.secret.object.asSecret = .ok secret)
    (hlacks : ∃ key ∈ certificateKeys, (secret.data.getD ∅).get? key = none)
    (hrun : runIn x (applyDesiredState spec registry setOwner) m ⟨t, []⟩ = ((r, m'), w')) :
    (∃ key, missingKey? (secret.data.getD ∅) = some key ∧
      r = .error (.preconditionMissing ("tls secret is missing the " ++ key ++ " key"))) ∧
      (∀ q : Place, q.kind ∈ webhookKinds → w'.store.get? q = t.get? q) ∧
      ((∀ c ∈ webhooks, w'.store.get? (c.place spec) = none) ↔
        ∀ c ∈ webhooks, t.get? (c.place spec) = none) := by
  obtain ⟨key, hmissing⟩ := Option.isSome_iff_exists.1 (missingKey?_isSome_iff.2 hlacks)
  obtain ⟨r₃, m₃, w₃, henforcer, herror, -, hafter⟩ :=
    runIn_applyDesiredState_of_untilEnforcer hstart hrun
  rw [runIn_applyEnforcer, hsteps] at henforcer
  dsimp only at henforcer
  rw [runIn_enforcerWebhooks_of_missing hanswering hsecret hmissing] at henforcer
  cases henforcer
  have hsame (q : Place) (hq : q.kind ∈ webhookKinds) : w'.store.get? q = t.get? q := by
    rw [hafter q hq, spares_enforcerSteps.same hsteps q hq, spares_untilEnforcer.same hstart q hq]
  have hkind : ∀ c ∈ webhooks, c.kind ∈ webhookKinds := by decide
  refine ⟨⟨key, hmissing, herror _ rfl⟩, hsame, forall₂_congr fun c hc => ?_⟩
  rw [hsame (c.place spec) (hkind c hc)]

/-- Whether a pass over blank webhooks comes to an enforcer that is ready, with a
blank certificate beside it. -/
def comesToBlankCertificate : Bool :=
  let start := runIn .steady (untilEnforcer default ⟨"", ∅⟩ none) {} ⟨enforcerWith none, []⟩
  let s : Surroundings := { kubelet := "v1.20.0", registry := some ⟨"", ∅⟩ }
  start.1.1.toOption = some "v1.20.0" &&
    (runIn .steady (enforcerSteps s default {}) start.1.2 start.2).1.1.toOption.any fun objects =>
      (readyReplicas objects.deployment.object).toOption.any (fun ready => !(ready < 1 : Bool)) &&
        objects.secret.object.asSecret.toOption.any fun secret =>
          missingKey? (secret.data.getD ∅) = some "ca.crt"

set_option maxRecDepth 10000 in
theorem steps_to_blank_certificate :
    ∃ m₁ w₁ objects m₂ w₂ secret,
      runIn .steady (untilEnforcer default ⟨"", ∅⟩ none) {} ⟨enforcerWith none, []⟩
        = ((.ok "v1.20.0", m₁), w₁) ∧
      runIn .steady (enforcerSteps { kubelet := "v1.20.0", registry := some ⟨"", ∅⟩ } default {})
        m₁ w₁ = ((.ok objects, m₂), w₂) ∧
      Answering (.ok objects) ∧ objects.secret.object.asSecret = .ok secret ∧
      missingKey? (secret.data.getD ∅) = some "ca.crt" := by
  have h : comesToBlankCertificate = true := by
    decide +kernel
  unfold comesToBlankCertificate at h
  dsimp only at h
  rcases hstart : runIn .steady (untilEnforcer default ⟨"", ∅⟩ none) {} ⟨enforcerWith none, []⟩
    with ⟨⟨_ | kubelet, m₁⟩, w₁⟩
  · rw [hstart] at h
    cases h
  rw [hstart, Bool.and_eq_true, decide_eq_true_eq] at h
  obtain ⟨hkubelet, h⟩ := h
  cases hkubelet
  rcases hsteps : runIn .steady
    (enforcerSteps { kubelet := "v1.20.0", registry := some ⟨"", ∅⟩ } default {}) m₁ w₁
    with ⟨⟨e | objects, m₂⟩, w₂⟩
  · rw [hsteps] at h
    cases h
  rw [hsteps, Except.toOption, Option.any_some, Bool.and_eq_true] at h
  obtain ⟨hready, hsecret⟩ := h
  rcases hreplicas : readyReplicas objects.deployment.object with e | ready
  · rw [hreplicas] at hready
    cases hready
  rcases hread : objects.secret.object.asSecret with e | secret
  · rw [hread] at hsecret
    cases hsecret
  rw [hreplicas, Except.toOption, Option.any_some, Bool.not_eq_true', decide_eq_false_iff_not]
    at hready
  rw [hread, Except.toOption, Option.any_some, decide_eq_true_eq] at hsecret
  exact ⟨m₁, w₁, objects, m₂, w₂, secret, rfl, hsteps, ⟨objects, ready, rfl, hreplicas, hready⟩,
    hread, hsecret⟩

theorem webhooks_of_blank_certificate :
    ∃ m₁ w₁ objects m₂ w₂ secret r m' w',
      runIn .steady (untilEnforcer default ⟨"", ∅⟩ none) {} ⟨enforcerWith none, []⟩
        = ((.ok "v1.20.0", m₁), w₁) ∧
      runIn .steady (enforcerSteps { kubelet := "v1.20.0", registry := some ⟨"", ∅⟩ } default {})
        m₁ w₁ = ((.ok objects, m₂), w₂) ∧
      Answering (.ok objects) ∧ objects.secret.object.asSecret = .ok secret ∧
      (∃ key ∈ certificateKeys, (secret.data.getD ∅).get? key = none) ∧
      runIn .steady (applyDesiredState default ⟨"", ∅⟩ none) {} ⟨enforcerWith none, []⟩
        = ((r, m'), w') ∧
      r = .error (.preconditionMissing "tls secret is missing the ca.crt key") ∧
      ∀ q : Place, q.kind ∈ webhookKinds → w'.store.get? q = (enforcerWith none).get? q := by
  obtain ⟨m₁, w₁, objects, m₂, w₂, secret, hstart, hsteps, hanswering, hsecret, hmissing⟩ :=
    steps_to_blank_certificate
  rcases hrun : runIn .steady (applyDesiredState default ⟨"", ∅⟩ none) {} ⟨enforcerWith none, []⟩
    with ⟨⟨r, m'⟩, w'⟩
  have hlacks := missingKey?_isSome_iff.1 (congrArg Option.isSome hmissing)
  obtain ⟨⟨key, hkey, herror⟩, hsame, -⟩ :=
    webhooks_of_missing_key hstart hsteps hanswering hsecret hlacks hrun
  cases hmissing.symm.trans hkey
  exact ⟨m₁, w₁, objects, m₂, w₂, secret, r, m', w', hstart, hsteps, hanswering, hsecret, hlacks,
    rfl, herror, hsame⟩

set_option maxRecDepth 10000 in
/-- Both webhooks stay where they lead to an enforcer with a blank certificate, though
no call fails and the enforcer is ready. -/
theorem webhooks_stay_beside_blank_certificate :
    ∃ m₁ w₁ objects m₂ w₂ secret r m' w',
      runIn .steady (untilEnforcer default ⟨"", ∅⟩ none) {} ⟨enforcerWith none, []⟩
        = ((.ok "v1.20.0", m₁), w₁) ∧
      runIn .steady (enforcerSteps { kubelet := "v1.20.0", registry := some ⟨"", ∅⟩ } default {})
        m₁ w₁ = ((.ok objects, m₂), w₂) ∧
      Answering (.ok objects) ∧ objects.secret.object.asSecret = .ok secret ∧
      missingKey? (secret.data.getD ∅) = some "ca.crt" ∧
      runIn .steady (applyDesiredState default ⟨"", ∅⟩ none) {} ⟨enforcerWith none, []⟩
        = ((r, m'), w') ∧
      (∀ made ∈ w'.calls, made.failed = false) ∧
      ∀ c ∈ webhooks, (w'.store.get? (c.place default)).isSome = true := by
  obtain ⟨m₁, w₁, objects, m₂, w₂, secret, hstart, hsteps, hanswering, hsecret, hmissing⟩ :=
    steps_to_blank_certificate
  have hend : (runIn .steady (applyDesiredState default ⟨"", ∅⟩ none) {}
        ⟨enforcerWith none, []⟩).2.calls.all (fun made => !made.failed) = true ∧
      webhooks.all (fun c => ((runIn .steady (applyDesiredState default ⟨"", ∅⟩ none) {}
        ⟨enforcerWith none, []⟩).2.store.get? (c.place default)).isSome) = true := by
    decide +kernel
  rcases hrun : runIn .steady (applyDesiredState default ⟨"", ∅⟩ none) {} ⟨enforcerWith none, []⟩
    with ⟨⟨r, m'⟩, w'⟩
  rw [hrun, List.all_eq_true, List.all_eq_true] at hend
  refine ⟨m₁, w₁, objects, m₂, w₂, secret, r, m', w', hstart, hsteps, hanswering, hsecret, hmissing,
    rfl, fun made hmade => ?_, hend.2⟩
  exact (Bool.not_eq_true' _).mp (hend.1 made hmade)

end AgentOperator.Dataplane
