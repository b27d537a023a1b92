/-!
AgentOperator.Kube.ApiVersion — the API generations a cluster of a given
kubelet version serves.

A version reads `v1.27.3-eks-a5565ad`; only major and minor take part, as
numbers. A text that is no version is compared as text. No text at all means
the latest version.
-/

namespace AgentOperator.Kube

/-! ## Kubelet versions -/

/-- A number below 2³², from digits alone. -/
def word32? (ds : List Char) : Option Nat :=
  if ds.isEmpty || !ds.all Char.isDigit then none
  else
    let n := Nat.ofDigitChars 10 ds 0
    if n < UInt32.size then some n else none

/-- Major and minor of a version. The minor is followed by anything that is no
digit; the major may have a plus sign. -/
def majorMinor? (version : String) : Option (Nat × Nat) :=
  let cs := match version.toList with
    | 'v' :: cs => cs
    | cs => cs
  match cs.span (· != '.') with
  | (major, '.' :: rest) => do
    let major := match major with
      | '+' :: ds => ds
      | ds => ds
    let minor := (rest.takeWhile (· != '.')).takeWhile Char.isDigit
    return (← word32? major, ← word32? minor)
  | _ => none

/-- Whether a kubelet is at or above `v<major>.<minor>`. -/
def versionAtLeast (kubelet : String) (major minor : Nat) : Bool :=
  if kubelet = "" then true
  else match majorMinor? kubelet with
    | some (m, n) => decide (major < m ∨ (m = major ∧ minor ≤ n))
    | none => decide (("v" ++ toString major ++ "." ++ toString minor : String) ≤ kubelet)

/-! ## Generations -/

/-- Generations of `scheduling.k8s.io`. They share one layout. -/
inductive SchedulingVersion where
  | v1
  | v1beta1
  | v1alpha1
deriving DecidableEq, Inhabited

namespace SchedulingVersion

def ofKubelet (kubelet : String) : SchedulingVersion :=
  if versionAtLeast kubelet 1 14 then .v1
  else if versionAtLeast kubelet 1 11 then .v1beta1
  else .v1alpha1

def version : SchedulingVersion → String
  | .v1 => "v1"
  | .v1beta1 => "v1beta1"
  | .v1alpha1 => "v1alpha1"

def apiVersion (v : SchedulingVersion) : String := "scheduling.k8s.io/" ++ v.version

end SchedulingVersion

/-- Generations of `admissionregistration.k8s.io`. -/
inductive AdmissionVersion where
  | v1
  | v1beta1
deriving DecidableEq, Inhabited

namespace AdmissionVersion

def ofKubelet (kubelet : String) : AdmissionVersion :=
  if versionAtLeast kubelet 1 16 then .v1 else .v1beta1

def version : AdmissionVersion → String
  | .v1 => "v1"
  | .v1beta1 => "v1beta1"

def apiVersion (v : AdmissionVersion) : String := "admissionregistration.k8s.io/" ++ v.version

end AdmissionVersion

end AgentOperator.Kube
