import AgentOperator.Proofs.Mutate
import Mathlib.Algebra.Order.Floor.Div

/-!
AgentOperator.Proofs.Scaling — how many replicas the resolver has.

Where the user gives no count there is one replica for every so many nodes. The nodes are
counted in 64 bits and the replicas in 32, and nothing wraps around on the way: the groups of
nodes are as many as in unbounded numbers (`toNat_groupCount`), and a count of them that does
not fit is cut (`toInt_cappedCount`). Short of the cut there are at most `k` replicas exactly
if `k` of them are enough for the nodes (`resolverReplicas_le_iff`): from this it follows that
they are enough, that none could be spared, and that more nodes never take any away.
-/

namespace AgentOperator.Dataplane

open Kube (Deployment Object)

/-! ## Groups -/

theorem ceilDiv_of_mod_eq_zero {n size : ℕ} (hsize : 0 < size) (h : n % size = 0) :
    n ⌈/⌉ size = n / size := by
  obtain ⟨q, rfl⟩ := Nat.dvd_of_mod_eq_zero h
  rw [Nat.mul_div_cancel_left q hsize]
  exact smul_ceilDiv hsize q

theorem ceilDiv_of_mod_ne_zero {n size : ℕ} (hsize : 0 < size) (h : n % size ≠ 0) :
    n ⌈/⌉ size = n / size + 1 := by
  have hsplit := Nat.div_add_mod n size
  have hrest := Nat.mod_lt n hsize
  refine eq_of_forall_ge_iff fun k => ?_
  rw [ceilDiv_le_iff_le_mul hsize, Nat.add_one_le_iff]
  constructor
  · intro hk
    exact Nat.lt_of_mul_lt_mul_left (a := size) (by omega)
  · intro hk
    have hnext := Nat.mul_le_mul_left size (Nat.add_one_le_iff.2 hk)
    rw [Nat.mul_add_one] at hnext
    omega

/-- So many groups are at most `k` exactly if `k` of them hold everything. -/
theorem natCast_ceilDiv_le_iff {n : ℕ} {size k : ℤ} (hsize : 0 < size) (hk : 0 ≤ k) :
    ((n ⌈/⌉ size.toNat : ℕ) : ℤ) ≤ k ↔ n ≤ k * size := by
  lift k to ℕ using hk
  lift size to ℕ using hsize.le
  rw [Int.toNat_natCast, Int.ofNat_le, ceilDiv_le_iff_le_mul (by omega), ← Int.natCast_mul,
    Int.ofNat_le, mul_comm]

/-- Counting groups never wraps around. None of them is empty, so that there are no more of
them than of what is grouped. -/
theorem toNat_groupCount (n : UInt64) {size : UInt64} (h : 0 < size.toNat) :
    (groupCount n size).toNat = n.toNat ⌈/⌉ size.toNat := by
  have hdivides : n % size = 0 ↔ n.toNat % size.toNat = 0 := by
    rw [← UInt64.toNat_inj, UInt64.toNat_mod]
    rfl
  unfold groupCount
  split
  · rename_i hmod
    rw [UInt64.toNat_div, ceilDiv_of_mod_eq_zero h (hdivides.1 hmod)]
  · rename_i hmod
    have hrest := mt hdivides.2 hmod
    have hfits : n.toNat / size.toNat + 1 < 2 ^ 64 := by
      have hsplit := Nat.div_add_mod n.toNat size.toNat
      have hgroups := Nat.le_mul_of_pos_left (n.toNat / size.toNat) h
      have hn := n.toNat_lt
      omega
    rw [ceilDiv_of_mod_ne_zero h hrest, UInt64.toNat_add, UInt64.toNat_div, UInt64.toNat_one,
      Nat.mod_eq_of_lt hfits]

theorem toInt_cappedCount (n : UInt64) :
    (cappedCount n).toInt = min (n.toNat : ℤ) (2 ^ 31 - 1) := by
  have hmax : Int32.maxValue.toNatClampNeg = 2 ^ 31 - 1 := rfl
  unfold cappedCount
  split
  · rename_i hfits
    rw [Int32.toInt_ofNat_of_lt (by omega)]
    omega
  · rw [Int32.toInt_maxValue]
    omega

/-! ## Replicas for nodes -/

theorem toInt_max (a b : Int32) : (max a b).toInt = max a.toInt b.toInt := by
  show (if a ≤ b then b else a).toInt = _
  rw [apply_ite Int32.toInt, max_def]
  simp only [Int32.le_iff_toInt_le]

/-- A positive ratio is the same number of nodes in 64 bits. -/
theorem toNat_toUInt64_of_pos {ratio : Int32} (h : 0 < ratio) :
    ratio.toInt64.toUInt64.toNat = ratio.toInt.toNat := by
  have hpos : 0 ≤ ratio.toInt := (Int32.lt_iff_toInt_lt.1 h).le
  have hword : 0 ≤ ratio.toInt64 := by rwa [Int64.le_iff_toInt_le, Int32.toInt_toInt64]
  rw [Int64.toNat_toUInt64_of_le hword, Int32.toNatClampNeg_toInt64]
  rfl

variable {nodes nodes' : UInt64} {ratio ratio' : Int32}

theorem resolverReplicas_of_pos (nodes : UInt64) (h : 0 < ratio) :
    resolverReplicas (some nodes) none ratio
      = max (cappedCount (groupCount nodes ratio.toInt64.toUInt64)) 1 :=
  if_pos h

theorem resolverReplicas_of_nonpos (nodes : UInt64) (h : ratio ≤ 0) :
    resolverReplicas (some nodes) none ratio = 1 :=
  if_neg (Int32.not_lt.2 h)

/-- The replicas as they are worked out in unbounded numbers. -/
theorem toInt_resolverReplicas (nodes : UInt64) (h : 0 < ratio) :
    (resolverReplicas (some nodes) none ratio).toInt
      = max (min ((nodes.toNat ⌈/⌉ ratio.toInt.toNat : ℕ) : ℤ) (2 ^ 31 - 1)) 1 := by
  have hpos : 0 < ratio.toInt := Int32.lt_iff_toInt_lt.1 h
  have hword := toNat_toUInt64_of_pos h
  rw [resolverReplicas_of_pos nodes h, toInt_max, toInt_cappedCount,
    toNat_groupCount nodes (by omega), hword]
  rfl

theorem one_le_resolverReplicas (nodes : UInt64) (ratio : Int32) :
    1 ≤ (resolverReplicas (some nodes) none ratio).toInt := by
  by_cases h : 0 < ratio
  · rw [toInt_resolverReplicas nodes h]
    exact le_max_right _ _
  · rw [resolverReplicas_of_nonpos nodes (Int32.not_lt.1 h)]
    rfl

theorem resolverReplicas_le_max (nodes : UInt64) (ratio : Int32) :
    (resolverReplicas (some nodes) none ratio).toInt ≤ 2 ^ 31 - 1 :=
  Int.le_sub_one_of_lt (Int32.toInt_lt _)

/-- Short of the greatest count there are at most `k` replicas exactly if so many are enough. -/
theorem resolverReplicas_le_iff (h : 0 < ratio) {k : ℤ} (hk : 1 ≤ k) (hfits : k < 2 ^ 31 - 1) :
    (resolverReplicas (some nodes) none ratio).toInt ≤ k ↔ nodes.toNat ≤ k * ratio.toInt := by
  have henough := natCast_ceilDiv_le_iff (n := nodes.toNat) (Int32.lt_iff_toInt_lt.1 h)
    (Int.le_of_lt hk)
  rw [toInt_resolverReplicas nodes h, max_le_iff, min_le_iff, or_iff_left (not_le.2 hfits),
    and_iff_left hk]
  exact henough

/-- More nodes, or fewer to a replica, never take replicas away. -/
theorem resolverReplicas_mono (hnodes : nodes ≤ nodes') (hpos : 0 < ratio')
    (hratio : ratio' ≤ ratio) :
    resolverReplicas (some nodes) none ratio ≤ resolverReplicas (some nodes') none ratio' := by
  have hpos' := Int32.lt_iff_toInt_lt.1 hpos
  have hratio' := Int32.le_iff_toInt_le.1 hratio
  have hone := one_le_resolverReplicas nodes' ratio'
  have hmax := resolverReplicas_le_max nodes ratio
  rw [Int32.le_iff_toInt_le]
  by_cases hfits : (resolverReplicas (some nodes') none ratio').toInt < 2 ^ 31 - 1
  · rw [resolverReplicas_le_iff (Int32.lt_iff_toInt_lt.2 (hpos'.trans_le hratio')) hone hfits]
    calc (nodes.toNat : ℤ)
      _ ≤ nodes'.toNat := Int.ofNat_le.2 (UInt64.le_iff_toNat_le.1 hnodes)
      _ ≤ (resolverReplicas (some nodes') none ratio').toInt * ratio'.toInt :=
        (resolverReplicas_le_iff hpos hone hfits).1 le_rfl
      _ ≤ (resolverReplicas (some nodes') none ratio').toInt * ratio.toInt :=
        Int.mul_le_mul_of_nonneg_left hratio' (by omega)
  · omega

/-- A number of replicas for so many nodes, one for every `ratio` of them. -/
structure Scaled (nodes : UInt64) (ratio r : Int32) : Prop where
  one_le : 1 ≤ r.toInt
  le_max : r.toInt ≤ 2 ^ 31 - 1
  /-- All groups of nodes, as long as they can be counted. -/
  value : 0 < ratio →
    r.toInt = max (min ((nodes.toNat ⌈/⌉ ratio.toInt.toNat : ℕ) : ℤ) (2 ^ 31 - 1)) 1
  enough : 0 < ratio → r.toInt = 2 ^ 31 - 1 ∨ nodes.toNat ≤ r.toInt * ratio.toInt
  least : 0 < ratio → r.toInt = 1 ∨ (r.toInt - 1) * ratio.toInt < nodes.toNat
  unscaled : ratio ≤ 0 → r = 1

theorem scaled_resolverReplicas (nodes : UInt64) (ratio : Int32) :
    Scaled nodes ratio (resolverReplicas (some nodes) none ratio) := by
  have hone := one_le_resolverReplicas nodes ratio
  have hmax := resolverReplicas_le_max nodes ratio
  refine ⟨hone, hmax, toInt_resolverReplicas nodes, fun h => ?enough, fun h => ?least,
    resolverReplicas_of_nonpos nodes⟩
  case enough =>
    refine or_iff_not_imp_left.2 fun hfits => ?_
    exact (resolverReplicas_le_iff h hone (by omega)).1 le_rfl
  case least =>
    -- One replica less would be in reach of the count, and is not enough.
    refine or_iff_not_imp_left.2 fun hmany => ?_
    rw [← not_le, ← resolverReplicas_le_iff h (by omega) (by omega)]
    omega

/-! ## The deployment -/

/-- The replicas that a deployment asks for. -/
def replicas? : Object → Option Int32
  | .deployment d => d.spec.bind (·.replicas)
  | _ => none

/-- Every deployment asks for the replicas of its plan, whatever it asked for before. -/
theorem Component.exists_replicas {c : Component} {s : Surroundings} {spec : Agent.Spec}
    {p : DeploymentPlan} (hp : c.deploymentPlan? s.nodes spec = some p) (d : Deployment) :
    ∃ o₁, c.mutate s spec (.deployment d) = .ok o₁ ∧ replicas? o₁ = some p.replicas :=
  ⟨_, (Change.deployment d hp).mutate, rfl⟩

/-- **The resolver scales with the nodes.** Brought to a spec, the resolver asks for as many
replicas as the user says, or else as its nodes need: at least one, enough for all nodes unless
that is more than 32 bits can count, and none to spare. More nodes, or fewer of them to a
replica, never take replicas away. Where the ratio is not positive there is just one. -/
theorem resolver_scales_with_nodes :
    (∀ (s : Surroundings) (spec : Agent.Spec) (d : Deployment),
      let resolver := spec.components.runtimeProtection.resolver
      ∃ o₁, Component.resolver.mutate s spec (.deployment d) = .ok o₁ ∧
        replicas? o₁ = some
          (resolverReplicas s.nodes resolver.replicasCount resolver.nodesToReplicasRatio)) ∧
    (∀ nodes ratio, Scaled nodes ratio (resolverReplicas (some nodes) none ratio)) ∧
    (∀ nodes nodes' ratio ratio', nodes ≤ nodes' → 0 < ratio' → ratio' ≤ ratio →
      resolverReplicas (some nodes) none ratio ≤ resolverReplicas (some nodes') none ratio') ∧
    ∀ nodes count ratio, resolverReplicas nodes (some count) ratio = count :=
  ⟨fun s spec d => Component.exists_replicas (p := resolverPlan s.nodes spec) rfl d,
    scaled_resolverReplicas, fun _ _ _ _ => resolverReplicas_mono, fun _ _ _ => rfl⟩

/-- From eleven nodes at five to a replica to all that 64 bits can count, at one to a replica. -/
theorem resolver_scales_past_capacity :
    (11 : UInt64) ≤ 18446744073709551615 ∧ (0 : Int32) < 1 ∧ (1 : Int32) ≤ 5 ∧
      resolverReplicas (some 11) none 5 = 3 ∧
      resolverReplicas (some 18446744073709551615) none 1 = .maxValue ∧
      resolverReplicas (some 11) none 5 ≤ resolverReplicas (some 18446744073709551615) none 1 :=
  ⟨by decide, by decide, by decide, by decide, by decide,
    resolver_scales_with_nodes.2.2.1 _ _ _ _ (by decide) (by decide) (by decide)⟩

end AgentOperator.Dataplane
