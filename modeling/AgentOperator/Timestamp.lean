import AgentOperator.Text.Blank

/-!
AgentOperator.Timestamp — instants to the second, in UTC.

`parse?` reads RFC 3339 text leniently: one or two digits for every field but
the year, blanks before the fields, a space or `t` in place of `T`, an offset
without colon or the word `UTC`, and a fraction of a second, which is dropped.
`render` writes `2020-01-02T01:04:05Z`. The second 60 of a leap second is
kept.
-/

namespace AgentOperator

structure Timestamp where
  year : Int
  month : Nat
  day : Nat
  hour : Nat
  minute : Nat
  second : Nat
deriving DecidableEq

namespace Timestamp

instance : Inhabited Timestamp := ⟨⟨1970, 1, 1, 0, 0, 0⟩⟩

/-! ## Calendar -/

def isLeapYear (year : Int) : Bool :=
  year.emod 4 = 0 && (year.emod 100 != 0 || year.emod 400 = 0)

def daysInMonth (year : Int) (month : Nat) : Nat :=
  match month with
  | 2 => if isLeapYear year then 29 else 28
  | 4 | 6 | 9 | 11 => 30
  | _ => 31

/-- The same time on the day before. -/
def previousDay (t : Timestamp) : Timestamp :=
  if 1 < t.day then { t with day := t.day - 1 }
  else if 1 < t.month then
    { t with month := t.month - 1, day := daysInMonth t.year (t.month - 1) }
  else { t with year := t.year - 1, month := 12, day := 31 }

/-- The same time on the day after. -/
def nextDay (t : Timestamp) : Timestamp :=
  if t.day < daysInMonth t.year t.month then { t with day := t.day + 1 }
  else if t.month < 12 then { t with month := t.month + 1, day := 1 }
  else { t with year := t.year + 1, month := 1, day := 1 }

/-- The instant `minutes` earlier, for less than a day. -/
def minusMinutes (t : Timestamp) (minutes : Int) : Timestamp :=
  let m : Int := t.hour * 60 + t.minute - minutes
  let onDay (t : Timestamp) (m : Int) : Timestamp :=
    { t with hour := m.toNat / 60, minute := m.toNat % 60 }
  if m < 0 then onDay t.previousDay (m + 1440)
  else if 1440 ≤ m then onDay t.nextDay (m - 1440)
  else onDay t m

/-! ## Reading -/

/-- Between one and `width` digits, and what follows them. -/
def digits? (width : Nat) (cs : List Char) : Option (Nat × List Char) :=
  let ds := (cs.take width).takeWhile Char.isDigit
  if ds.isEmpty then none else some (Nat.ofDigitChars 10 ds 0, cs.drop ds.length)

/-- Between one and `width` digits, after blanks, and what follows them. -/
def number? (width : Nat) (cs : List Char) : Option (Nat × List Char) :=
  digits? width (Text.trimStart cs)

/-- The last year that can be told. -/
def maxYear : Int := 262142

/-- The first year that can be told. -/
def minYear : Int := -262143

/-- Whether a year can be told. -/
def isKnownYear (year : Int) : Bool := decide (minYear ≤ year) && decide (year ≤ maxYear)

/-- A year, after blanks: up to four digits, or a sign and any number of them. -/
def year? (cs : List Char) : Option (Int × List Char) :=
  match Text.trimStart cs with
  | '-' :: cs => (digits? cs.length cs).map fun (n, cs) => (-(n : Int), cs)
  | '+' :: cs => (digits? cs.length cs).map fun (n, cs) => ((n : Int), cs)
  | cs => (digits? 4 cs).map fun (n, cs) => ((n : Int), cs)

/-- A given character, after blanks. -/
def mark? (c : Char) (cs : List Char) : Option (List Char) :=
  match Text.trimStart cs with
  | d :: cs => if d = c then some cs else none
  | [] => none

/-- Drops a fraction of a second; a point needs a digit behind it. -/
def skipFraction? : List Char → Option (List Char)
  | '.' :: cs =>
    match cs.span Char.isDigit with
    | ([], _) => none
    | (_, rest) => some rest
  | cs => some cs

/-- An offset from UTC in minutes. -/
def offset? (cs : List Char) : Option (Int × List Char) :=
  let cs := Text.trimStart cs
  if (cs.take 3).map Char.toUpper = ['U', 'T', 'C'] then some (0, cs.drop 3)
  else match cs with
    | 'Z' :: rest | 'z' :: rest => some (0, rest)
    | sign :: h₁ :: h₂ :: rest =>
      if (sign = '+' ∨ sign = '-' ∨ sign = '−') ∧ h₁.isDigit ∧ h₂.isDigit then
        match rest.dropWhile fun c => c = ':' || Text.isBlank c with
        | m₁ :: m₂ :: rest =>
          let hours := Nat.ofDigitChars 10 [h₁, h₂] 0
          if '0' ≤ m₁ ∧ m₁ ≤ '5' ∧ m₂.isDigit ∧ hours < 24 then
            let minutes : Int := hours * 60 + Nat.ofDigitChars 10 [m₁, m₂] 0
            some (if sign = '+' then minutes else -minutes, rest)
          else none
        | _ => none
      else none
    | _ => none

/-- The instant a text names. Its year can be told both as written and in UTC. -/
def parse? (text : String) : Option Timestamp := do
  let (year, cs) ← year? text.toList
  let (month, cs) ← number? 2 (← mark? '-' cs)
  let (day, cs) ← number? 2 (← mark? '-' cs)
  let cs ← (match cs with
    | 'T' :: cs | 't' :: cs | ' ' :: cs => some cs
    | _ => none)
  let (hour, cs) ← number? 2 cs
  let (minute, cs) ← number? 2 (← mark? ':' cs)
  let (second, cs) ← number? 2 (← mark? ':' cs)
  let (offset, cs) ← offset? (← skipFraction? cs)
  let written : Timestamp := ⟨year, month, day, hour, minute, second⟩
  let instant := written.minusMinutes offset
  if (Text.trimStart cs).isEmpty ∧ 1 ≤ month ∧ month ≤ 12 ∧ 1 ≤ day
      ∧ day ≤ daysInMonth year month ∧ hour < 24 ∧ minute < 60 ∧ second ≤ 60
      ∧ isKnownYear year ∧ isKnownYear instant.year then
    some instant
  else none

/-! ## Writing -/

/-- A number with zeros in front up to a width. -/
def padded (width : Nat) (n : Nat) : String :=
  let ds := Nat.toDigits 10 n
  String.ofList (List.replicate (width - ds.length) '0' ++ ds)

/-- Four digits; a year of another length has a sign. -/
def renderYear (year : Int) : String :=
  if 0 ≤ year ∧ year ≤ 9999 then padded 4 year.toNat
  else if year < 0 then "-" ++ padded 4 year.natAbs
  else "+" ++ padded 4 year.natAbs

def render (t : Timestamp) : String :=
  renderYear t.year ++ "-" ++ padded 2 t.month ++ "-" ++ padded 2 t.day ++ "T" ++
    padded 2 t.hour ++ ":" ++ padded 2 t.minute ++ ":" ++ padded 2 t.second ++ "Z"

end Timestamp

end AgentOperator
