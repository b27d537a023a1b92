import AgentOperator.Codec.Basic
import AgentOperator.Text.Blank

/-!
AgentOperator.Kube.Quantity — resource amounts compared by value.

The API server writes an amount in its own way (`1024Mi` comes back as `1Gi`),
so amounts are compared as floating point numbers, to within one unit of
relative precision. Amounts that are no numbers are compared as texts.
-/

namespace AgentOperator.Kube

/-- An amount of a resource, such as `64Mi` or `200m`, as it is written. -/
structure Quantity where
  text : String := ""
deriving DecidableEq, Inhabited

namespace Quantity

def codec : Codec Quantity := Codec.string.imap mk text

/-! ## Numbers -/

/-- Digits before and after a point, at least one in all. -/
def mantissa? (cs : List Char) : Option (List Char × List Char × List Char) :=
  let (whole, rest) := cs.span Char.isDigit
  let (fraction, rest) := match rest with
    | '.' :: rest => rest.span Char.isDigit
    | rest => ([], rest)
  if whole.isEmpty && fraction.isEmpty then none else some (whole, fraction, rest)

/-- An exponent at the end of a number; none is zero. -/
def exponent? : List Char → Option Int
  | [] => some 0
  | c :: cs =>
    if c = 'e' ∨ c = 'E' then
      let (sign, ds) : Int × List Char := match cs with
        | '-' :: ds => (-1, ds)
        | '+' :: ds => (1, ds)
        | ds => (1, ds)
      if ds.isEmpty || !ds.all Char.isDigit then none
      else some (sign * Nat.ofDigitChars 10 ds 0)
    else none

/-- The nearest floating point number to `m * 10 ^ e`. Exponents far out of
range are settled without computing the power. -/
def ofDecimal (m : Nat) (e : Int) : Float :=
  let digits : Int := (Nat.toDigits 10 m).length
  if m = 0 then 0
  else if 400 < digits + e then 1 / 0
  else if digits + e < -400 then 0
  else if 0 ≤ e then Float.ofScientific m false e.toNat
  else Float.ofScientific m true e.natAbs

/-- A number without sign: decimal digits with point and exponent, or the words
for infinity and for no number. -/
def unsigned? (cs : List Char) : Option Float :=
  let word := cs.map Char.toLower
  if word = ['i', 'n', 'f'] ∨ word = ['i', 'n', 'f', 'i', 'n', 'i', 't', 'y'] then some (1 / 0)
  else if word = ['n', 'a', 'n'] then some (0 / 0)
  else do
    let (whole, fraction, rest) ← mantissa? cs
    let e ← exponent? rest
    return ofDecimal (Nat.ofDigitChars 10 (whole ++ fraction) 0) (e - fraction.length)

/-- A number with or without sign. -/
def number? : List Char → Option Float
  | '-' :: cs => (unsigned? cs).map Float.neg
  | '+' :: cs => unsigned? cs
  | cs => unsigned? cs

/-! ## Amounts -/

/-- The units, in the order in which they are tried. -/
def units : List (List Char × Float) :=
  [(['K', 'i'], 1024), (['M', 'i'], 1048576), (['G', 'i'], 1073741824),
    (['T', 'i'], 1099511627776), (['P', 'i'], 1125899906842624),
    (['E', 'i'], 1152921504606846976), (['n'], 1e-9), (['u'], 1e-6), (['m'], 1e-3), (['k'], 1e3),
    (['M'], 1e6), (['G'], 1e9), (['T'], 1e12), (['P'], 1e15), (['E'], 1e18)]

/-- The text in front of a unit. -/
def beforeUnit? (unit cs : List Char) : Option (List Char) :=
  if unit.isSuffixOf cs then some (cs.take (cs.length - unit.length)) else none

/-- The value of an amount: a number with the first unit it ends in, or a
number alone. -/
def value? (q : Quantity) : Option Float :=
  let cs := Text.trim q.text.toList
  match units.findSome? fun (unit, factor) => (beforeUnit? unit cs).map (·, factor) with
  | some (ds, factor) => (number? ds).map (· * factor)
  | none => number? cs

/-- The distance from one to the next floating point number. -/
def epsilon : Float := Float.ofScientific 2220446049250313 true 31

/-- Whether two amounts have one value. -/
def same (a b : Quantity) : Bool :=
  match value? a, value? b with
  | some x, some y => decide ((x - y).abs ≤ epsilon * max x.abs y.abs)
  | _, _ => decide (a = b)

/-- Whether two lists of amounts have the same entries by value; no list is an
empty one. -/
def sameLists (actual desired : Option (Dict Quantity)) : Bool :=
  let actual := actual.getD ∅
  let desired := desired.getD ∅
  decide (actual.size = desired.size) &&
    desired.toList.all fun (name, q) => (actual.get? name).any (same · q)

end Quantity

end AgentOperator.Kube
