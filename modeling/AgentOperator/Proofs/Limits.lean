import AgentOperator.Proofs.Defaults
import Mathlib.Data.Rat.Defs
import Mathlib.Algebra.Field.Rat

/-!
AgentOperator.Proofs.Limits — requests and limits, amount by amount.

What a component requests and what it is limited to are filled in each from a list of
defaults of its own. Among the defaults no request exceeds its limit (`Part.defaults_fit`),
but a default does not look at what the user gave on the other side. So the amounts of a
spec go together after filling in exactly when those given go together, and each that is
given alone goes with the default it will stand beside (`withDefaults_consistent_iff`).

Amounts are compared exactly, as rational numbers.
-/

namespace AgentOperator.Kube.Quantity

/-! ## Exact values -/

/-- What each unit stands for. -/
def scales : List (List Char × ℚ) :=
  [(['n'], 1 / 10 ^ 9), (['u'], 1 / 10 ^ 6), (['m'], 1 / 10 ^ 3), (['k'], 10 ^ 3),
    (['M'], 10 ^ 6), (['G'], 10 ^ 9), (['T'], 10 ^ 12), (['P'], 10 ^ 15), (['E'], 10 ^ 18),
    (['K', 'i'], 2 ^ 10), (['M', 'i'], 2 ^ 20), (['G', 'i'], 2 ^ 30), (['T', 'i'], 2 ^ 40),
    (['P', 'i'], 2 ^ 50), (['E', 'i'], 2 ^ 60)]

/-- What stands behind the digits of an amount: a unit, a decimal exponent, or nothing. -/
def scale? (cs : List Char) : Option ℚ :=
  (scales.lookup cs).or ((exponent? cs).map fun e => (10 : ℚ) ^ e)

/-- The number that an amount without sign is. -/
def magnitude? (cs : List Char) : Option ℚ := do
  let (whole, fraction, rest) ← mantissa? cs
  let scale ← scale? rest
  return Nat.ofDigitChars 10 (whole ++ fraction) 0 / 10 ^ fraction.length * scale

/-- The number that an amount is. -/
def rational? (q : Quantity) : Option ℚ :=
  match q.text.toList with
  | '-' :: cs => (magnitude? cs).map Neg.neg
  | '+' :: cs => magnitude? cs
  | cs => magnitude? cs

example : rational? ⟨"1.5Gi"⟩ = rational? ⟨"1536Mi"⟩ := by decide +kernel

/-- Whether an amount is more than another. What is no number exceeds nothing. -/
def exceeds (a b : Quantity) : Bool :=
  match rational? a, rational? b with
  | some x, some y => decide (y < x)
  | _, _ => false

end AgentOperator.Kube.Quantity

namespace AgentOperator.Agent

open Kube (Quantity ResourceRequirements)

/-! ## The resources of one component -/

/-- No request exceeds the limit it stands beside. -/
def Consistent (r : ResourceRequirements) : Prop :=
  ∀ kind ∈ filledKinds, ∀ request ∈ (listed r.requests).get? kind,
    ∀ limit ∈ (listed r.limits).get? kind, request.exceeds limit = false

instance (r : ResourceRequirements) : Decidable (Consistent r) := by
  unfold Consistent
  infer_instance

/-- Each amount that is given alone goes with the default of the other side. -/
structure LoneAmountsFit (r : ResourceRequirements) (requests limits : Amounts) : Prop where
  request : ∀ kind ∈ filledKinds, (listed r.limits).get? kind = none →
    ∀ request ∈ (listed r.requests).get? kind, ∀ limit ∈ limits.get? kind,
      request.exceeds limit = false
  limit : ∀ kind ∈ filledKinds, (listed r.requests).get? kind = none →
    ∀ request ∈ requests.get? kind, ∀ limit ∈ (listed r.limits).get? kind,
      request.exceeds limit = false

/-- No default request exceeds the default limit. -/
def AmountsFit (requests limits : Amounts) : Prop :=
  ∀ kind ∈ filledKinds, ∀ request ∈ requests.get? kind, ∀ limit ∈ limits.get? kind,
    request.exceeds limit = false

instance (requests limits : Amounts) : Decidable (AmountsFit requests limits) := by
  unfold AmountsFit
  infer_instance

theorem resourcesWithDefaults_consistent_iff {requests limits : Amounts}
    (hfit : AmountsFit requests limits) (r : ResourceRequirements) :
    Consistent (resourcesWithDefaults r requests limits)
      ↔ Consistent r ∧ LoneAmountsFit r requests limits := by
  have hrequests (kind : String) :
      (listed (resourcesWithDefaults r requests limits).requests).get? kind
        = ((listed r.requests).get? kind).or (requests.get? kind) :=
    requests.get?_fill r.requests kind
  have hlimits (kind : String) :
      (listed (resourcesWithDefaults r requests limits).limits).get? kind
        = ((listed r.limits).get? kind).or (limits.get? kind) :=
    limits.get?_fill r.limits kind
  simp only [Consistent, hrequests, hlimits]
  constructor
  · intro h
    refine ⟨?_, ?_, ?_⟩
    · intro kind hkind request hrequest limit hlimit
      exact h kind hkind request (by simp_all) limit (by simp_all)
    · intro kind hkind hnone request hrequest limit hlimit
      exact h kind hkind request (by simp_all) limit (by simp_all)
    · intro kind hkind hnone request hrequest limit hlimit
      exact h kind hkind request (by simp_all) limit (by simp_all)
  · intro ⟨hgiven, hlone⟩ kind hkind request hrequest limit hlimit
    cases hr : (listed r.requests).get? kind with
    | some given =>
      rw [hr, Option.some_or, Option.mem_some_iff] at hrequest
      subst hrequest
      cases hl : (listed r.limits).get? kind with
      | some bound =>
        rw [hl, Option.some_or, Option.mem_some_iff] at hlimit
        subst hlimit
        exact hgiven kind hkind given hr bound hl
      | none =>
        rw [hl, Option.none_or] at hlimit
        exact hlone.request kind hkind hl given hr limit hlimit
    | none =>
      rw [hr, Option.none_or] at hrequest
      cases hl : (listed r.limits).get? kind with
      | some bound =>
        rw [hl, Option.some_or, Option.mem_some_iff] at hlimit
        subst hlimit
        exact hlone.limit kind hkind hr request hrequest bound hl
      | none =>
        rw [hl, Option.none_or] at hlimit
        exact hfit kind hkind request hrequest limit hlimit

/-! ## Specs -/

theorem Part.defaults_fit (p : Part) : AmountsFit p.defaults.requests p.defaults.limits := by
  cases p <;> decide +kernel

/-- **When requests stay within their limits.** After filling in no request of a component
exceeds its limit if and only if none did among the amounts that were given, and of those given
alone no request exceeds the default limit and no limit is below the default request. -/
theorem withDefaults_consistent_iff (s : Spec) :
    (∀ p : Part, Consistent (p.resources s.withDefaults)) ↔
      (∀ p : Part, Consistent (p.resources s)) ∧
        ∀ p : Part, LoneAmountsFit (p.resources s) p.defaults.requests p.defaults.limits := by
  simp only [Part.resources_withDefaults,
    resourcesWithDefaults_consistent_iff (Part.defaults_fit _)]
  exact forall_and

/-- A monitor is limited to less processor time than it requests by default. -/
def tightMonitor : Spec :=
  { account := "acc"
    clusterName := "c"
    version := "1.0.0"
    components :=
      { basic :=
          { monitor := { resources := { limits := some (.ofList [("cpu", ⟨"10m"⟩)]) } } } } }

/-- A limit that is given alone is kept, and so is the default request beside it. -/
theorem tightMonitor_exceeds :
    (∀ p : Part, Consistent (p.resources tightMonitor)) ∧ tightMonitor.validate = .ok () ∧
      ¬ ∀ p : Part, Consistent (p.resources tightMonitor.withDefaults) := by
  refine ⟨?_, by decide, ?_⟩
  · intro p
    cases p <;> decide +kernel
  · intro h
    exact absurd (h .monitor) (by decide +kernel)

end AgentOperator.Agent
