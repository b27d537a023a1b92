import AgentOperator.Proofs.Entries
import AgentOperator.Proofs.Texts
import Mathlib.Data.List.TakeDrop
import Mathlib.Data.Prod.Lex

/-!
AgentOperator.Proofs.Versions — what a kubelet version allows.

A version that is spelled as versions are is compared as a pair of numbers
(`versionAtLeast_spelled_iff`). Any other text is compared as a text, with the gate as it is
spelled. Both orders put the gates alike, so whatever the text is, a later gate is met only
if the earlier ones are (`gates_nested`). The generation of the webhook configurations hangs
on one gate and the members of their entries on others, and it is by this that an entry of
the later generation has all that it must have (`settledEntry_equipped`).
-/

namespace AgentOperator.Kube

/-! ## Reading a version -/

/-- A text that does not begin with a digit. -/
def NoDigitFirst (cs : List Char) : Prop := ∀ c ∈ cs.head?, c.isDigit = false

theorem takeWhile_isDigit {ds rest : List Char} (hds : ∀ c ∈ ds, c.isDigit = true)
    (hrest : NoDigitFirst rest) : (ds ++ rest).takeWhile Char.isDigit = ds := by
  rw [List.takeWhile_append_of_pos hds]
  cases rest with
  | nil => exact List.append_nil ds
  | cons c cs => rw [List.takeWhile_cons_of_neg (by simp [hrest c rfl]), List.append_nil]

/-- What comes before a dot does not begin with a digit if the whole does not. -/
theorem NoDigitFirst.takeWhile {cs : List Char} (h : NoDigitFirst cs) (p : Char → Bool) :
    NoDigitFirst (cs.takeWhile p) := by
  cases cs with
  | nil => exact h
  | cons c cs =>
    by_cases hc : p c = true
    · rw [List.takeWhile_cons_of_pos hc]
      exact h
    · rw [List.takeWhile_cons_of_neg hc]
      exact nofun

theorem ne_of_isDigit {c d : Char} (hc : c.isDigit = true) (hd : d.isDigit = false) : c ≠ d := by
  rintro rfl
  exact absurd (hc.symm.trans hd) (by decide)

theorem isDigit_of_mem_toDigits {n : Nat} {c : Char} (h : c ∈ Nat.toDigits 10 n) :
    c.isDigit = true :=
  Nat.isDigit_of_mem_toDigits (by omega) (by omega) h

/-- The digits of a number begin with one, whatever follows them. -/
theorem exists_toDigits_append (n : Nat) (rest : List Char) :
    ∃ c cs, Nat.toDigits 10 n ++ rest = c :: cs ∧ c.isDigit = true := by
  obtain ⟨c, cs, hcs⟩ := List.exists_cons_of_ne_nil (Nat.toDigits_ne_nil (b := 10) (n := n))
  refine ⟨c, cs ++ rest, by rw [hcs, List.cons_append], ?_⟩
  exact isDigit_of_mem_toDigits (hcs ▸ List.mem_cons_self ..)

/-- A number that fits a word of 32 bits is read from its digits. -/
theorem word32?_toDigits {n : Nat} (h : n < UInt32.size) : word32? (Nat.toDigits 10 n) = some n := by
  have hempty : (Nat.toDigits 10 n).isEmpty = false :=
    List.isEmpty_eq_false_iff.2 Nat.toDigits_ne_nil
  have hdigits : (Nat.toDigits 10 n).all Char.isDigit = true :=
    List.all_eq_true.2 fun _ => isDigit_of_mem_toDigits
  simp only [word32?, hempty, hdigits, Nat.ofDigitChars_ten_toDigits, h, Bool.not_true,
    Bool.or_self, Bool.false_eq_true, if_false, if_true]

theorem span_dot {ds : List Char} (hds : ∀ c ∈ ds, c.isDigit = true) (rest : List Char) :
    (ds ++ '.' :: rest).span (· != '.') = (ds, '.' :: rest) := by
  have hne : ∀ c ∈ ds, (c != '.') = true := fun c hc =>
    bne_iff_ne.2 (ne_of_isDigit (hds c hc) (by decide))
  rw [List.span_eq_takeWhile_dropWhile, List.takeWhile_append_of_pos hne,
    List.dropWhile_append_of_pos hne]
  simp

/-- Digits are not cut off at the front, as long as it is another character that is. -/
theorem toDigits_append_ne_cons {n : Nat} {rest cs : List Char} {c : Char}
    (hc : c.isDigit = false) : Nat.toDigits 10 n ++ rest ≠ c :: cs := by
  obtain ⟨d, ds, hds, hd⟩ := exists_toDigits_append n rest
  rw [hds]
  exact fun heq => ne_of_isDigit hd hc (List.cons.inj heq).1

/-- Major and minor are read from a version, written with or without the `v`. -/
theorem majorMinor?_spelled {v suffix : String} {major minor : Nat} (hv : v = "" ∨ v = "v")
    (hmajor : major < UInt32.size) (hminor : minor < UInt32.size)
    (hsuffix : NoDigitFirst suffix.toList) :
    majorMinor? (v ++ toString major ++ "." ++ toString minor ++ suffix) = some (major, minor) := by
  -- `hplus` and `hnov` rule out the signs that the reader would strip.
  let rest := Nat.toDigits 10 minor ++ suffix.toList
  have htext : (v ++ toString major ++ "." ++ toString minor ++ suffix).toList
      = v.toList ++ (Nat.toDigits 10 major ++ '.' :: rest) := by
    simp [rest]
  have hspan := span_dot (fun _ => isDigit_of_mem_toDigits (n := major)) rest
  have hplus : ∀ ds, Nat.toDigits 10 major = '+' :: ds → False := fun ds heq =>
    toDigits_append_ne_cons (by decide) ((List.append_nil _).trans heq)
  have hminors : (rest.takeWhile (· != '.')).takeWhile Char.isDigit = Nat.toDigits 10 minor := by
    have hne : ∀ c ∈ Nat.toDigits 10 minor, (c != '.') = true := fun c hc =>
      bne_iff_ne.2 (ne_of_isDigit (isDigit_of_mem_toDigits hc) (by decide))
    rw [List.takeWhile_append_of_pos hne]
    exact takeWhile_isDigit (fun _ => isDigit_of_mem_toDigits) (hsuffix.takeWhile _)
  have hnov : ∀ cs, Nat.toDigits 10 major ++ '.' :: rest = 'v' :: cs → False := fun cs heq =>
    toDigits_append_ne_cons (by decide) heq
  rcases hv with rfl | rfl
  · rw [String.toList_empty, List.nil_append] at htext
    simp only [majorMinor?, htext, hspan, hminors, word32?_toDigits hmajor,
      word32?_toDigits hminor]
    rfl
  · have htext' : ("v" ++ toString major ++ "." ++ toString minor ++ suffix).toList
      = 'v' :: (Nat.toDigits 10 major ++ '.' :: rest) := htext
    simp only [majorMinor?, htext', hspan, hminors, word32?_toDigits hmajor,
      word32?_toDigits hminor]
    rfl

theorem spelled_ne_empty (v suffix : String) (major minor : Nat) :
    v ++ toString major ++ "." ++ toString minor ++ suffix ≠ "" := by
  intro h
  have hdot : '.' ∈ (v ++ toString major ++ "." ++ toString minor ++ suffix).toList := by simp
  rw [h] at hdot
  cases hdot

/-- Versions are compared as numbers, the major first. -/
theorem versionAtLeast_spelled_iff {v suffix : String} {major minor : Nat} (hv : v = "" ∨ v = "v")
    (hmajor : major < UInt32.size) (hminor : minor < UInt32.size)
    (hsuffix : NoDigitFirst suffix.toList) (M m : Nat) :
    versionAtLeast (v ++ toString major ++ "." ++ toString minor ++ suffix) M m = true
      ↔ toLex (M, m) ≤ toLex (major, minor) := by
  rw [versionAtLeast, if_neg (spelled_ne_empty v suffix major minor),
    majorMinor?_spelled hv hmajor hminor hsuffix, Prod.Lex.toLex_le_toLex]
  simp only [decide_eq_true_eq, eq_comm (a := major)]

example : versionAtLeast "v1.9.3" 1 16 = false := by decide

/-! ## Gates -/

/-- The text that a kubelet version is compared with if it is none. -/
def gateText (major minor : Nat) : String := "v" ++ toString major ++ "." ++ toString minor

/-- A gate that comes first, both as a version and as a text, is met by all that meet the
other. -/
theorem versionAtLeast_mono {M m M' m' : Nat} (hlex : toLex (M', m') ≤ toLex (M, m))
    (htext : gateText M' m' ≤ gateText M m) {kubelet : String}
    (h : versionAtLeast kubelet M m = true) : versionAtLeast kubelet M' m' = true := by
  unfold versionAtLeast at h ⊢
  split at h
  · rename_i hempty
    rw [if_pos hempty]
  · rename_i hempty
    rw [if_neg hempty]
    split at h
    · -- A version: both gates are compared as numbers.
      simp only [decide_eq_true_eq] at h ⊢
      rw [Prod.Lex.toLex_le_toLex] at hlex
      dsimp only at hlex
      omega
    · -- No version: both gates are compared as they are spelled.
      rw [decide_eq_true_eq] at h ⊢
      exact String.le_trans htext h

/-- Whoever meets a later gate meets the earlier ones, also with a text that is no version. -/
theorem gates_nested (kubelet : String) :
    (versionAtLeast kubelet 1 16 = true → versionAtLeast kubelet 1 15 = true) ∧
    (versionAtLeast kubelet 1 15 = true → versionAtLeast kubelet 1 14 = true) ∧
    (versionAtLeast kubelet 1 14 = true → versionAtLeast kubelet 1 11 = true) :=
  ⟨versionAtLeast_mono (by decide) (by decide), versionAtLeast_mono (by decide) (by decide),
    versionAtLeast_mono (by decide) (by decide)⟩

theorem ofKubelet_eq_v1_iff {kubelet : String} :
    AdmissionVersion.ofKubelet kubelet = .v1 ↔ versionAtLeast kubelet 1 16 = true := by
  unfold AdmissionVersion.ofKubelet
  split <;> simp_all

end AgentOperator.Kube

namespace AgentOperator.Dataplane

open Kube (AdmissionVersion NoDigitFirst Object Webhook WebhookConfiguration WebhookKind
  gates_nested ofKubelet_eq_v1_iff versionAtLeast)

/-! ## Entries of the generation `v1` -/

/-- An entry says which reviews it understands, what it may change, how long it may take
and what it matches. -/
structure Equipped (w : Webhook) : Prop where
  reviewVersions : w.admissionReviewVersions ≠ []
  sideEffects : w.sideEffects.isSome = true
  timeout : w.timeoutSeconds.isSome = true
  matchPolicy : w.matchPolicy.isSome = true

theorem settledEntry_equipped {kubelet : String} (hkubelet : AdmissionVersion.ofKubelet kubelet = .v1)
    (kind : WebhookKind) (tls : TlsMaterial) (spec : Agent.Spec) (w : Webhook) :
    Equipped (settledEntry kind kubelet tls spec w) := by
  obtain ⟨hfifteen, hfourteen, -⟩ := gates_nested kubelet
  have h15 := hfifteen (ofKubelet_eq_v1_iff.1 hkubelet)
  have h14 := hfourteen h15
  have hversions : reviewVersions ≠ [] := by decide
  cases kind
  case validating =>
    simp only [settledEntry, validatingEntry_eq, h14, if_true]
    exact ⟨hversions, rfl, rfl, rfl⟩
  case mutating =>
    simp only [settledEntry, mutatingEntry_eq, h14, h15, if_true]
    exact ⟨hversions, rfl, rfl, rfl⟩

/-- A configuration that a component may find: the empty one, or one that was read. -/
inductive Found (kubelet : String) (kind : WebhookKind) (c : WebhookConfiguration) : Prop where
  | empty (h : (webhooksOf kind).emptyObject kubelet = .ofWebhooks kind c)
  | read {j : Json}
      (h : ((webhooksOf kind).emptyObject kubelet).decodeLike j = .ok (.ofWebhooks kind c))

theorem Found.version {kubelet : String} {kind : WebhookKind} {c : WebhookConfiguration}
    (h : Found kubelet kind c) : c.version = .ofKubelet kubelet := by
  cases h with
  | empty h => cases kind <;> cases h <;> rfl
  | read h => cases kind <;> exact (Object.known_of_decodeLike h).1

/-- **Gates are numeric and nested.** A version is compared as a pair of numbers, whatever comes
after it; of any text at all the later gates imply the earlier ones; and so the entries of a
configuration of the generation `v1` are left with all that they must have. -/
theorem gates_numeric_and_nested :
    (∀ (v suffix : String) (major minor M m : Nat), v = "" ∨ v = "v" → major < UInt32.size →
      minor < UInt32.size → NoDigitFirst suffix.toList →
      (versionAtLeast (v ++ toString major ++ "." ++ toString minor ++ suffix) M m = true
        ↔ toLex (M, m) ≤ toLex (major, minor))) ∧
    (∀ kubelet : String,
      (versionAtLeast kubelet 1 16 = true → versionAtLeast kubelet 1 15 = true) ∧
      (versionAtLeast kubelet 1 15 = true → versionAtLeast kubelet 1 14 = true) ∧
      (versionAtLeast kubelet 1 14 = true → versionAtLeast kubelet 1 11 = true)) ∧
    (∀ (kind : WebhookKind) (s : Surroundings) (tls : TlsMaterial) (spec : Agent.Spec)
      (c : WebhookConfiguration), Found s.kubelet kind c → c.version = .v1 →
      ∃ c₁ : WebhookConfiguration,
        (webhooksOf kind).mutate { s with tls := some tls } spec (.ofWebhooks kind c)
          = .ok (.ofWebhooks kind c₁) ∧
        c₁.version = .v1 ∧ ∀ w ∈ c₁.webhooks, Equipped w) := by
  refine ⟨?_, gates_nested, ?_⟩
  · exact fun v suffix major minor M m hv hmajor hminor hsuffix =>
      Kube.versionAtLeast_spelled_iff hv hmajor hminor hsuffix M m
  · intro kind s tls spec c hfound hversion
    have hkubelet : AdmissionVersion.ofKubelet s.kubelet = .v1 := hfound.version.symm.trans hversion
    refine ⟨_, mutate_ofWebhooks kind s tls spec c, ?_, ?_⟩
    · rw [version_settledWebhooks, hversion]
    · rw [webhooks_settledWebhooks, List.forall_mem_map]
      exact fun w _ => settledEntry_equipped hkubelet kind tls spec w

end AgentOperator.Dataplane
