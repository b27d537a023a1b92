import AgentOperator.Proofs.Readings
import Mathlib.Data.List.Forall2

/-!
AgentOperator.Proofs.Rewriting — what is left of a webhook configuration that is read
and written again.

A configuration of the generation `v1` is read into the form that all generations
share, which has no place for the match conditions of an entry. Written again, it is
the configuration without them (`AdmissionV1.Configuration.rewritten`). Every other
member of every entry is written as the generation itself writes it, so nothing is
lost exactly if no entry has match conditions (`AdmissionV1.entries_of_rewriting`).
-/

namespace AgentOperator

/-! ## Members that are carried over -/

namespace Json

/-- Every member of the first value but one is a member of the second. -/
def CarriedBut (name : String) (j k : Json) : Prop :=
  ∀ n v, n ≠ name → j.get? n = some v → k.get? n = some v

/-- Every member of the first value is a member of the second. -/
def Carried (j k : Json) : Prop := ∀ n v, j.get? n = some v → k.get? n = some v

end Json

namespace Entries

variable {V : Type u}

/-- Among entries of different keys, each is found. -/
theorem find?_eq_some_iff {k : String} {v : V} {es : List (String × V)}
    (hes : (es.map (·.1)).Nodup) : find? k es = some v ↔ (k, v) ∈ es := by
  refine ⟨find?_eq_some, fun hmem => ?_⟩
  induction es with
  | nil => cases hmem
  | cons e es ih =>
    simp only [List.map_cons, List.nodup_cons] at hes
    rw [find?]
    rcases List.mem_cons.1 hmem with rfl | hmem
    · rw [if_pos rfl]
    · have hne : e.1 ≠ k := fun heq => hes.1 (heq ▸ List.mem_map_of_mem hmem)
      rw [if_neg hne, ih hes.2 hmem]

end Entries

namespace Record

variable {σ α β : Type} {name : String} {s s' : σ}

/-- What the record writes for the first value it writes for the second, but for one
member. -/
def Carries (r : Record σ α) (name : String) (s s' : σ) : Prop :=
  ∀ m ∈ r.write s, m.1 ≠ name → m ∈ r.write s'

/-- The record does not write a member of this name. -/
def Lacks (r : Record σ α) (name : String) (s : σ) : Prop := ∀ m ∈ r.write s, m.1 ≠ name

theorem carries_of_eq {r : Record σ α} (h : r.write s = r.write s') : r.Carries name s s' :=
  fun _ hm _ => h ▸ hm

theorem carries_seq {f : Record σ (α → β)} {r : Record σ α} (hf : f.Carries name s s')
    (hr : r.Carries name s s') : (f <*> r).Carries name s s' := by
  intro m hm hname
  rcases List.mem_append.1 hm with hm | hm
  · exact List.mem_append_left _ (hf m hm hname)
  · exact List.mem_append_right _ (hr m hm hname)

theorem carries_skipped {get : σ → Option α} {c : Codec α} :
    (optional name get c).Carries name s s' := by
  intro m hm hname
  simp only [optional] at hm
  split at hm
  · exact absurd (List.mem_singleton.1 hm ▸ rfl) hname
  · cases hm

/-- A member that is given is carried over; one that is not may become one. -/
theorem carries_filled {member : String} {get : σ → Option α} {c : Codec α}
    (h : ∀ a, get s = some a → get s' = some a) :
    (optional member get c).Carries name s s' := by
  intro m hm _
  cases hs : get s with
  | none =>
    simp only [optional, hs] at hm
    cases hm
  | some a =>
    simp only [optional, hs, h a hs] at hm ⊢
    exact hm

theorem lacks_seq {f : Record σ (α → β)} {r : Record σ α} (hf : f.Lacks name s)
    (hr : r.Lacks name s) : (f <*> r).Lacks name s := by
  intro m hm
  exact (List.mem_append.1 hm).elim (hf m) (hr m)

theorem lacks_of_names {r : Record σ α} {get : σ → α} [Lossless r get] (h : name ∉ r.names) :
    r.Lacks name s := by
  rintro m hm rfl
  exact h ((Lossless.restores (r := r) s).keys.subset (List.mem_map_of_mem hm))

theorem lacks_optional {get : σ → Option α} {c : Codec α} (h : get s = none) :
    (optional name get c).Lacks name s := by
  intro m hm
  simp only [optional, h] at hm
  cases hm

variable {r : Record α α} {get : α → α} {a b : α}

/-- The members of an object are those that the record writes. -/
theorem get?_codec_encode [Lossless r get] (hnodup : r.names.Nodup) {n : String} {v : Json} :
    ((codec r).encode a).get? n = some v ↔ (n, v) ∈ r.write a := by
  have hkeys : ((r.write a).map (·.1)).Nodup :=
    hnodup.sublist (Lossless.restores (r := r) a).keys
  show Entries.find? n (Entries.ofList (r.write a)) = some v ↔ _
  rw [Entries.find?_ofList n hkeys, Entries.find?_eq_some_iff hkeys]

theorem codec_carriedBut [Lossless r get] (hnodup : r.names.Nodup) (h : r.Carries name a b) :
    Json.CarriedBut name ((codec r).encode a) ((codec r).encode b) := by
  intro n v hn hv
  rw [get?_codec_encode hnodup] at hv ⊢
  exact h (n, v) hv hn

theorem codec_get?_of_lacks [Lossless r get] (hnodup : r.names.Nodup) (h : r.Lacks name a) :
    ((codec r).encode a).get? name = none := by
  refine Option.eq_none_iff_forall_ne_some.2 fun v hv => ?_
  exact h _ ((get?_codec_encode hnodup).1 hv) rfl

end Record

namespace Kube

open Record (carries_seq carries_of_eq carries_skipped carries_filled lacks_seq lacks_of_names
  lacks_optional)

namespace AdmissionV1

/-! ## Entries -/

/-- The entry as it is written again. -/
def Webhook.rewritten (w : Webhook) : Webhook :=
  { w with matchConditions := none, rules := some (w.rules.getD []) }

theorem Webhook.ofEntry_toEntry (w : Webhook) : ofEntry w.toEntry = w.rewritten := rfl

theorem Webhook.encode_carriedBut (kind : WebhookKind) (w : Webhook) :
    Json.CarriedBut "matchConditions" ((codec kind).encode w) ((codec kind).encode w.rewritten) := by
  have hrules : ∀ rs, w.rules = some rs → w.rewritten.rules = some rs := by
    intro rs hrs
    show some (w.rules.getD []) = some rs
    rw [hrs]
    rfl
  -- the members before the match conditions are the same, and so are those around the rules
  cases kind <;>
  · refine Record.codec_carriedBut (by decide) ?_
    refine carries_seq (carries_seq (carries_seq ?_ (carries_filled hrules)) (carries_of_eq rfl))
      (carries_of_eq rfl)
    iterate 5 refine carries_seq ?_ (carries_of_eq rfl)
    exact carries_seq (carries_of_eq rfl) carries_skipped

/-- An entry without match conditions is written without a member for them. -/
theorem Webhook.encode_get?_matchConditions (kind : WebhookKind) {w : Webhook}
    (h : w.matchConditions = none) : ((codec kind).encode w).get? "matchConditions" = none := by
  cases kind <;>
  · refine Record.codec_get?_of_lacks (by decide) ?_
    iterate 8 refine lacks_seq ?_ (lacks_of_names (by decide))
    exact lacks_seq (lacks_of_names (by decide)) (lacks_optional h)

theorem Webhook.encode_get?_of_matchConditions (kind : WebhookKind) {w : Webhook}
    {conditions : List MatchCondition} (h : w.matchConditions = some conditions) :
    ((codec kind).encode w).get? "matchConditions"
      = some ((Codec.list MatchCondition.codec).encode conditions) := by
  have hmember : ("matchConditions", (Codec.list MatchCondition.codec).encode conditions) ∈
      (Record.optional "matchConditions" Webhook.matchConditions
        (.list MatchCondition.codec)).write w := by
    simp only [Record.optional, h]
    exact List.mem_singleton_self _
  cases kind <;>
  · refine (Record.get?_codec_encode (by decide)).2 ?_
    iterate 8 refine List.mem_append_left _ ?_
    exact List.mem_append_right _ hmember

/-- Written again, an entry keeps all its members exactly if it has no match
conditions. -/
theorem Webhook.encode_carried_iff (kind : WebhookKind) (w : Webhook) :
    Json.Carried ((codec kind).encode w) ((codec kind).encode w.rewritten)
      ↔ w.matchConditions = none := by
  constructor
  · intro hcarried
    cases h : w.matchConditions with
    | none => rfl
    | some conditions =>
      have hkept := hcarried _ _ (encode_get?_of_matchConditions kind h)
      rw [encode_get?_matchConditions kind rfl] at hkept
      cases hkept
  · intro h n v hv
    refine encode_carriedBut kind w n v ?_ hv
    rintro rfl
    rw [encode_get?_matchConditions kind h] at hv
    cases hv

/-! ## Configurations -/

/-- The configuration as it is written again. -/
def Configuration.rewritten (c : Configuration) : Configuration :=
  { c with webhooks := some ((c.webhooks.getD []).map Webhook.rewritten) }

theorem Configuration.ofNeutral_toNeutral (c : Configuration) :
    ofNeutral c.toNeutral = c.rewritten := by
  have hentries : Webhook.ofEntry ∘ Webhook.toEntry = Webhook.rewritten :=
    funext Webhook.ofEntry_toEntry
  show Configuration.mk c.metadata (some (((c.webhooks.getD []).map Webhook.toEntry).map
    Webhook.ofEntry)) = _
  rw [List.map_map, hentries]
  rfl

/-- The entries of a configuration, as they are written. -/
def entriesIn (j : Json) : List Json := ((j.get? "webhooks").bind Json.asArray?).getD []

theorem entriesIn_encode (kind : WebhookKind) (c : Configuration) :
    entriesIn ((Configuration.codec kind).encode c)
      = (c.webhooks.getD []).map (Webhook.codec kind).encode := by
  obtain ⟨metadata, webhooks⟩ := c
  cases webhooks with
  | none =>
    have hnone : ((Configuration.codec kind).encode ⟨metadata, none⟩).get? "webhooks" = none := by
      refine Entries.find?_ofList "webhooks" ?_
      show ["apiVersion", "kind", "metadata"].Nodup
      decide
    rw [entriesIn, hnone]
    rfl
  | some ws =>
    have hsome : ((Configuration.codec kind).encode ⟨metadata, some ws⟩).get? "webhooks"
        = some ((Codec.list (Webhook.codec kind)).encode ws) := by
      refine Entries.find?_ofList "webhooks" ?_
      show ["apiVersion", "kind", "metadata", "webhooks"].Nodup
      decide
    rw [entriesIn, hsome]
    rfl

theorem entriesIn_encode_rewritten (kind : WebhookKind) (c : Configuration) :
    entriesIn ((Configuration.codec kind).encode c.rewritten)
      = (c.webhooks.getD []).map fun w => (Webhook.codec kind).encode w.rewritten := by
  rw [entriesIn_encode]
  exact List.map_map

/-- What holds between each entry and the entry written again holds along the entries. -/
theorem forall₂_entriesIn_iff {R : Json → Json → Prop} {kind : WebhookKind} {c : Configuration} :
    List.Forall₂ R (entriesIn ((Configuration.codec kind).encode c))
        (entriesIn ((Configuration.codec kind).encode c.rewritten))
      ↔ ∀ w ∈ c.webhooks.getD [],
        R ((Webhook.codec kind).encode w) ((Webhook.codec kind).encode w.rewritten) := by
  rw [entriesIn_encode, entriesIn_encode_rewritten, List.forall₂_map_left_iff,
    List.forall₂_map_right_iff, List.forall₂_same]

/-- Written again, what the generation itself can read is written without match
conditions. -/
theorem Configuration.encode_decode {kind : WebhookKind} {j : Json} {c : Configuration}
    (h : (Configuration.codec kind).decode j = .ok c) :
    ∃ n, WebhookConfiguration.decode kind .v1 j = .ok n ∧
      n.encode kind = (Configuration.codec kind).encode c.rewritten := by
  refine ⟨c.toNeutral, ?_, ?_⟩
  · show Configuration.toNeutral <$> (Configuration.codec kind).decode j = _
    rw [h]
    rfl
  · show (Configuration.codec kind).encode (ofNeutral c.toNeutral) = _
    rw [Configuration.ofNeutral_toNeutral]

/-- **What a rewriting loses.** Every value that the generation `v1` can read is read by
the operator as well. In what it writes for it, each entry has the members that the
generation itself would write, but for the match conditions; and it has those too exactly
if no entry has match conditions. -/
theorem entries_of_rewriting {kind : WebhookKind} {j : Json} {c : Configuration}
    (h : (Configuration.codec kind).decode j = .ok c) :
    ∃ n, WebhookConfiguration.decode kind .v1 j = .ok n ∧
      List.Forall₂ (Json.CarriedBut "matchConditions")
        (entriesIn ((Configuration.codec kind).encode c)) (entriesIn (n.encode kind)) ∧
      (List.Forall₂ Json.Carried
          (entriesIn ((Configuration.codec kind).encode c)) (entriesIn (n.encode kind))
        ↔ ∀ w ∈ c.webhooks.getD [], w.matchConditions = none) := by
  obtain ⟨n, hn, hwritten⟩ := Configuration.encode_decode h
  refine ⟨n, hn, ?_, ?_⟩
  · rw [hwritten, forall₂_entriesIn_iff]
    exact fun w _ => Webhook.encode_carriedBut kind w
  · rw [hwritten, forall₂_entriesIn_iff]
    exact forall₂_congr fun w _ => Webhook.encode_carried_iff kind w

/-! ### An entry with a match condition -/

/-- A configuration of one entry, which is asked about nothing while its condition is
false. -/
def guarded : Configuration where
  webhooks := some [{ name := "guard", matchConditions := some [⟨"false", "never"⟩] }]

theorem decode_guarded :
    (Configuration.codec .validating).decode ((Configuration.codec .validating).encode guarded)
      = .ok guarded := by
  refine (Configuration.codec_keeps ObjectMeta.known_default ?_).decode_encode
  intro ws hws w hw _
  cases hws
  cases List.mem_singleton.1 hw
  rfl

/-- Its entry is written again with all other members, and without this one. -/
theorem guarded_rewritten :
    (Configuration.codec .validating).decode ((Configuration.codec .validating).encode guarded)
      = .ok guarded ∧
    ∃ n, WebhookConfiguration.decode .validating .v1
        ((Configuration.codec .validating).encode guarded) = .ok n ∧
      ¬ List.Forall₂ Json.Carried (entriesIn ((Configuration.codec .validating).encode guarded))
        (entriesIn (n.encode .validating)) := by
  obtain ⟨n, hn, -, hiff⟩ := entries_of_rewriting decode_guarded
  refine ⟨decode_guarded, n, hn, fun hall => ?_⟩
  have hnone := hiff.1 hall _ (List.mem_singleton_self _)
  cases hnone

/-- Not every configuration is written again with what the generation would write. -/
theorem rewriting_loses_matchConditions :
    ¬ ∀ (kind : WebhookKind) (j : Json) (c : Configuration),
      (Configuration.codec kind).decode j = .ok c →
      ∃ n, WebhookConfiguration.decode kind .v1 j = .ok n ∧
        List.Forall₂ Json.Carried (entriesIn ((Configuration.codec kind).encode c))
          (entriesIn (n.encode kind)) := by
  intro hall
  obtain ⟨n, hn, hcarried⟩ := hall .validating _ guarded decode_guarded
  obtain ⟨n', hn', hwritten⟩ := Configuration.encode_decode decode_guarded
  cases hn.symm.trans hn'
  rw [hwritten, forall₂_entriesIn_iff] at hcarried
  have hnone := (Webhook.encode_carried_iff _ _).1 (hcarried _ (List.mem_singleton_self _))
  cases hnone

end AdmissionV1

end Kube

end AgentOperator
