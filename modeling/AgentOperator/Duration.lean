/-!
AgentOperator.Duration — spans of time, in milliseconds.
-/

namespace AgentOperator

structure Duration where
  milliseconds : Nat
deriving DecidableEq, Inhabited

namespace Duration

def ofSeconds (n : Nat) : Duration := ⟨n * 1000⟩

/-- The decimals of a part of a thousand, without zeros at the end. -/
def decimals (n : Nat) : List Char :=
  let ds := [n / 100 % 10, n / 10 % 10, n % 10]
  ((ds.reverse.dropWhile (· = 0)).reverse).map Nat.digitChar

/-- The span in the largest of seconds and milliseconds that is not zero:
`300s`, `1.5s`, `250ms`; no time at all is `0ns`. -/
def render (d : Duration) : String :=
  let seconds := d.milliseconds / 1000
  let rest := d.milliseconds % 1000
  if 0 < seconds then
    let fraction := if rest = 0 then "" else "." ++ String.ofList (decimals rest)
    toString seconds ++ fraction ++ "s"
  else if 0 < rest then toString rest ++ "ms"
  else "0ns"

end Duration

end AgentOperator
