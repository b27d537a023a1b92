import AgentOperator.Json.Basic

/-!
AgentOperator.Json.Double — the values of JSON numbers that are no integers of a
64-bit word.

Such a number is a double. Its digits, as far as a 64-bit word holds them, are
rounded to a double first, which is then multiplied or divided by a power of
ten and rounded again; so a literal with many digits may be read as a neighbour
of the nearest double. `shortest` is the decimal that a double is held and
written as. Only numbers without sign occur here.
-/

namespace AgentOperator.Json.Double

/-- The double next to `digits * 10 ^ exponent`. -/
def nearest (digits : Nat) (exponent : Int) : Float :=
  if 0 ≤ exponent then Float.ofScientific digits false exponent.toNat
  else Float.ofScientific digits true exponent.natAbs

/-! ## Reading -/

/-- The largest power of ten that is a double. -/
def maxPower : Nat := 308

/-- A double divided by a power of ten, which is done in two steps where the
power is too large for one. Beyond that nothing is left. -/
def scaleDown (x : Float) (n : Nat) : Float :=
  if n ≤ maxPower then x / nearest 1 n
  else if n ≤ 2 * maxPower then x / nearest 1 maxPower / nearest 1 (n - maxPower : Nat)
  else 0

/-- Reads on from a number that `taken` digits made, as long as a 64-bit word
holds it: the number, and how many digits made it. -/
def leadingDigits (n taken : Nat) : List Char → Nat × Nat
  | [] => (n, taken)
  | c :: cs =>
    let m := n * 10 + (c.toNat - '0'.toNat)
    if m < UInt64.size then leadingDigits m (taken + 1) cs else (n, taken)

/-- The number with these digits before and behind the point, times a power of
ten, unless it is too large. -/
def ofLiteral? (whole fraction : List Char) (exponent : Int) : Option Float :=
  let (n, taken) := leadingDigits 0 0 (whole ++ fraction)
  let scale := exponent + whole.length - taken
  if n = 0 then some 0
  else if maxPower < scale then none
  else if scale < 0 then some (scaleDown (nearest n 0) scale.natAbs)
  else
    let x := nearest n 0 * nearest 1 scale
    if x.isFinite then some x else none

/-! ## Writing -/

/-- A number as a fraction, from the bits of its double. -/
def fraction (x : Float) : Nat × Nat :=
  let bits := x.toBits.toNat
  let field := (bits >>> 52) % (1 <<< 11)
  let written := bits % (1 <<< 52)
  let mantissa := if field = 0 then written else written + 1 <<< 52
  let exponent : Int := (max field 1 : Nat) - 1075
  if 0 ≤ exponent then (mantissa <<< exponent.toNat, 1) else (mantissa, 1 <<< exponent.natAbs)

/-- The number of digits before the point; less than one if the first digit
stands behind it. -/
def pointPlace (num den : Nat) : Int :=
  if den ≤ num then (Nat.toDigits 10 (num / den)).length
  else 1 - ((Nat.toDigits 10 (den / num)).length : Int)

/-- The whole number next to `num / den`, the even one if two are equally near,
and the one on the other side. -/
def around (num den : Nat) : Nat × Nat :=
  let below := num / den
  let rest := num % den * 2
  if den < rest ∨ (rest = den ∧ below % 2 = 1) then (below + 1, below) else (below, below + 1)

/-- The decimal next to a double that has its last digit at a power of ten, if
it is read back as that double; otherwise the one on the other side. -/
def atPlace? (x : Float) (exponent : Int) : Option (Nat × Int) :=
  let (n, d) := fraction x
  let (first, second) :=
    if 0 ≤ exponent then around n (d * Nat.pow 10 exponent.toNat)
    else around (n * Nat.pow 10 exponent.natAbs) d
  if nearest first exponent == x then some (first, exponent)
  else if nearest second exponent == x then some (second, exponent)
  else none

/-- A decimal for a double with as few digits as one can have: the digits and
the power of ten they are multiplied by. -/
def shortest (x : Float) : Nat × Int :=
  let (n, d) := fraction x
  if n = 0 then (0, 0)
  else
    let places := (List.range 18).map fun i : Nat => pointPlace n d - 1 - i
    (places.findSome? (atPlace? x)).getD (n / d, 0)

end AgentOperator.Json.Double
