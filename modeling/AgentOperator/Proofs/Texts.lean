import AgentOperator.Text.Base64
import AgentOperator.Timestamp

/-!
AgentOperator.Proofs.Texts — octets and instants read back from their texts.

Every octet string is read back from its base64 text (`Base64.decode?_encode`).
Of instants only those that a calendar has are (`Timestamp.parse?_render`), and
what is read from a text is always one of those (`Timestamp.known_of_parse?`).
-/

namespace AgentOperator

/-! ## Base64 -/

namespace Base64

theorem digit?_ofDigit : ∀ n < 64, digit? (ofDigit n) = some n := by decide

theorem ofDigit_ne_pad : ∀ n < 64, ofDigit n ≠ '=' := by decide

/-- A group of four characters that does not end in padding. -/
theorem decode?_group {d : Char} (hd : d ≠ '=') (a b c : Char) (rest : List Char) :
    decode? (a :: b :: c :: d :: rest)
      = (digit? a).bind fun x => (digit? b).bind fun y => (digit? c).bind fun z =>
          (digit? d).bind fun w => (decode? rest).bind fun more =>
            some (UInt8.ofNat (x * 4 + y / 16) :: UInt8.ofNat (y % 16 * 16 + z / 4) ::
              UInt8.ofNat (z % 4 * 64 + w) :: more) := by
  rw [decode?]
  · rfl
  · rintro _ rfl _
    exact hd rfl
  · rintro rfl _
    exact hd rfl

theorem decode?_pair {c : Char} (hc : c ≠ '=') (a b : Char) :
    decode? [a, b, c, '=']
      = (digit? a).bind fun x => (digit? b).bind fun y => (digit? c).bind fun z =>
          if z % 4 = 0 then
            some [UInt8.ofNat (x * 4 + y / 16), UInt8.ofNat (y % 16 * 16 + z / 4)]
          else none := by
  rw [decode?]
  · rfl
  · exact hc

theorem ofNat_eq {n : Nat} {a : UInt8} (h : n = a.toNat) : UInt8.ofNat n = a := by
  rw [h, UInt8.ofNat_toNat]

/-- Octets are read back from their text. -/
theorem decode?_encode (b : Bytes) : decode? (encode b) = some b := by
  induction b using encode.induct with
  | case1 => rfl
  | case2 a =>
    have ha := a.toNat_lt
    have h₁ := digit?_ofDigit (a.toNat / 4) (by omega)
    have h₂ := digit?_ofDigit (a.toNat % 4 * 16) (by omega)
    have hzero : a.toNat % 4 * 16 % 16 = 0 := by omega
    rw [encode, decode?, h₁, h₂]
    simp only [Option.bind_eq_bind, Option.bind_some, hzero, if_true]
    rw [ofNat_eq (a := a) (by omega)]
  | case3 a b =>
    have ha := a.toNat_lt
    have hb := b.toNat_lt
    have h₁ := digit?_ofDigit (a.toNat / 4) (by omega)
    have h₂ := digit?_ofDigit (a.toNat % 4 * 16 + b.toNat / 16) (by omega)
    have h₃ := digit?_ofDigit (b.toNat % 16 * 4) (by omega)
    have hzero : b.toNat % 16 * 4 % 4 = 0 := by omega
    rw [encode, decode?_pair (ofDigit_ne_pad _ (by omega)), h₁, h₂, h₃]
    simp only [Option.bind_some, hzero, if_true]
    rw [ofNat_eq (a := a) (by omega), ofNat_eq (a := b) (by omega)]
  | case4 a b c rest ih =>
    have ha := a.toNat_lt
    have hb := b.toNat_lt
    have hc := c.toNat_lt
    have h₁ := digit?_ofDigit (a.toNat / 4) (by omega)
    have h₂ := digit?_ofDigit (a.toNat % 4 * 16 + b.toNat / 16) (by omega)
    have h₃ := digit?_ofDigit (b.toNat % 16 * 4 + c.toNat / 64) (by omega)
    have h₄ := digit?_ofDigit (c.toNat % 64) (by omega)
    rw [encode, decode?_group (ofDigit_ne_pad _ (by omega)), h₁, h₂, h₃, h₄, ih]
    simp only [Option.bind_some]
    rw [ofNat_eq (a := a) (by omega), ofNat_eq (a := b) (by omega), ofNat_eq (a := c) (by omega)]

end Base64

/-! ## Instants -/

namespace Timestamp

/-- An instant that a calendar has, in a year that can be told. A leap second
may end any minute. -/
structure Known (t : Timestamp) : Prop where
  year : isKnownYear t.year = true
  month : 1 ≤ t.month ∧ t.month ≤ 12
  day : 1 ≤ t.day ∧ t.day ≤ daysInMonth t.year t.month
  hour : t.hour < 24
  minute : t.minute < 60
  second : t.second ≤ 60

instance (t : Timestamp) : Decidable (Known t) :=
  decidable_of_iff
    (isKnownYear t.year = true ∧ (1 ≤ t.month ∧ t.month ≤ 12) ∧
      (1 ≤ t.day ∧ t.day ≤ daysInMonth t.year t.month) ∧ t.hour < 24 ∧ t.minute < 60 ∧
      t.second ≤ 60)
    ⟨fun ⟨h₁, h₂, h₃, h₄, h₅, h₆⟩ => ⟨h₁, h₂, h₃, h₄, h₅, h₆⟩,
     fun ⟨h₁, h₂, h₃, h₄, h₅, h₆⟩ => ⟨h₁, h₂, h₃, h₄, h₅, h₆⟩⟩

theorem daysInMonth_le (year : Int) (month : Nat) : daysInMonth year month ≤ 31 := by
  unfold daysInMonth
  split
  · split <;> omega
  all_goals omega

theorem one_le_daysInMonth (year : Int) (month : Nat) : 1 ≤ daysInMonth year month := by
  unfold daysInMonth
  split
  · split <;> omega
  all_goals omega

/-! ### What is read is known -/

/-- The day before keeps to the calendar. -/
theorem previousDay_date {t : Timestamp} (hm : 1 ≤ t.month ∧ t.month ≤ 12)
    (hd : 1 ≤ t.day ∧ t.day ≤ daysInMonth t.year t.month) :
    (1 ≤ t.previousDay.month ∧ t.previousDay.month ≤ 12) ∧
      1 ≤ t.previousDay.day ∧
      t.previousDay.day ≤ daysInMonth t.previousDay.year t.previousDay.month := by
  unfold previousDay
  split
  · exact ⟨hm, by simp only; omega, by simp only; omega⟩
  · split
    · exact ⟨by simp only; omega, one_le_daysInMonth _ _, Nat.le_refl _⟩
    · exact ⟨by simp only; omega, by simp only; omega, Nat.le_refl _⟩

theorem nextDay_date {t : Timestamp} (hm : 1 ≤ t.month ∧ t.month ≤ 12)
    (hd : 1 ≤ t.day ∧ t.day ≤ daysInMonth t.year t.month) :
    (1 ≤ t.nextDay.month ∧ t.nextDay.month ≤ 12) ∧
      1 ≤ t.nextDay.day ∧ t.nextDay.day ≤ daysInMonth t.nextDay.year t.nextDay.month := by
  unfold nextDay
  split
  · exact ⟨hm, by simp only; omega, by simp only; omega⟩
  · split
    · exact ⟨by simp only; omega, Nat.le_refl _, one_le_daysInMonth _ _⟩
    · exact ⟨by simp only; omega, Nat.le_refl _, one_le_daysInMonth _ _⟩

/-- Moving an instant by less than a day keeps it on the calendar. -/
theorem minusMinutes_known {t : Timestamp} (hm : 1 ≤ t.month ∧ t.month ≤ 12)
    (hd : 1 ≤ t.day ∧ t.day ≤ daysInMonth t.year t.month) (hh : t.hour < 24)
    (hmin : t.minute < 60) (hs : t.second ≤ 60) {minutes : Int}
    (hlo : -1440 < minutes) (hhi : minutes < 1440)
    (hyear : isKnownYear (t.minusMinutes minutes).year = true) :
    Known (t.minusMinutes minutes) := by
  have hprevious := previousDay_date hm hd
  have hnext := nextDay_date hm hd
  have hpsecond : t.previousDay.second = t.second := by
    unfold previousDay; split
    · rfl
    · split <;> rfl
  have hnsecond : t.nextDay.second = t.second := by
    unfold nextDay; split
    · rfl
    · split <;> rfl
  unfold minusMinutes at hyear ⊢
  simp only at hyear ⊢
  split at hyear
  · rename_i hneg
    rw [if_pos hneg]
    exact ⟨hyear, hprevious.1, hprevious.2, by simp only; omega, by simp only; omega,
      by simp only [hpsecond]; omega⟩
  · rename_i hneg
    rw [if_neg hneg]
    split at hyear
    · rename_i hover
      rw [if_pos hover]
      exact ⟨hyear, hnext.1, hnext.2, by simp only; omega, by simp only; omega,
        by simp only [hnsecond]; omega⟩
    · rename_i hover
      rw [if_neg hover]
      exact ⟨hyear, hm, hd, by simp only; omega, by simp only; omega, hs⟩

theorem isDigit_iff {c : Char} : c.isDigit = true ↔ 48 ≤ c.toNat ∧ c.toNat ≤ 57 := by
  rw [Char.isDigit, Bool.and_eq_true, decide_eq_true_eq, decide_eq_true_eq]
  exact Iff.rfl

/-- Offsets are less than a day. -/
theorem offset?_lt {cs rest : List Char} {minutes : Int}
    (h : offset? cs = some (minutes, rest)) : -1440 < minutes ∧ minutes < 1440 := by
  simp only [offset?] at h
  split at h
  · cases h; omega
  · split at h
    · cases h; omega
    · cases h; omega
    · split at h
      · split at h
        · rename_i m₁ m₂ _ _
          split at h
          · rename_i hm
            obtain ⟨hlo, hhi, hdigit, hhours⟩ := hm
            have h₁ : 48 ≤ m₁.toNat := hlo
            have h₂ : m₁.toNat ≤ 53 := hhi
            have h₃ := isDigit_iff.1 hdigit
            have hminutes : Nat.ofDigitChars 10 [m₁, m₂] 0 < 60 := by
              have hzero : '0'.toNat = 48 := rfl
              simp only [Nat.ofDigitChars_cons, Nat.ofDigitChars_nil]
              omega
            cases h
            split <;> omega
          · cases h
        · cases h
      · cases h
    · cases h

/-- **What is read from a text is an instant that a calendar has.** -/
theorem known_of_parse? {text : String} {t : Timestamp} (h : parse? text = some t) : Known t := by
  unfold parse? at h
  obtain ⟨⟨year, _⟩, -, h⟩ := Option.bind_eq_some_iff.1 h
  obtain ⟨_, -, h⟩ := Option.bind_eq_some_iff.1 h
  obtain ⟨⟨month, _⟩, -, h⟩ := Option.bind_eq_some_iff.1 h
  obtain ⟨_, -, h⟩ := Option.bind_eq_some_iff.1 h
  obtain ⟨⟨day, _⟩, -, h⟩ := Option.bind_eq_some_iff.1 h
  obtain ⟨_, -, h⟩ := Option.bind_eq_some_iff.1 h
  obtain ⟨⟨hour, _⟩, -, h⟩ := Option.bind_eq_some_iff.1 h
  obtain ⟨_, -, h⟩ := Option.bind_eq_some_iff.1 h
  obtain ⟨⟨minute, _⟩, -, h⟩ := Option.bind_eq_some_iff.1 h
  obtain ⟨_, -, h⟩ := Option.bind_eq_some_iff.1 h
  obtain ⟨⟨second, _⟩, -, h⟩ := Option.bind_eq_some_iff.1 h
  obtain ⟨_, -, h⟩ := Option.bind_eq_some_iff.1 h
  obtain ⟨⟨offset, _⟩, hoffset, h⟩ := Option.bind_eq_some_iff.1 h
  dsimp only at h
  split at h
  · rename_i hvalid
    obtain ⟨-, hm₁, hm₂, hd₁, hd₂, hh, hmin, hs, -, hyear⟩ := hvalid
    obtain ⟨hlo, hhi⟩ := offset?_lt hoffset
    cases h
    exact minusMinutes_known ⟨hm₁, hm₂⟩ ⟨hd₁, hd₂⟩ hh hmin hs hlo hhi hyear
  · cases h

/-! ### What is written is read back -/

/-- The digits of a number with zeros in front. -/
def paddedDigits (width n : Nat) : List Char :=
  List.replicate (width - (Nat.toDigits 10 n).length) '0' ++ Nat.toDigits 10 n

theorem padded_toList (width n : Nat) : (padded width n).toList = paddedDigits width n := by
  simp [padded, paddedDigits]

theorem isDigit_of_mem_paddedDigits {width n : Nat} {c : Char} (h : c ∈ paddedDigits width n) :
    c.isDigit = true := by
  rcases List.mem_append.1 h with h | h
  · rw [List.eq_of_mem_replicate h]
    rfl
  · exact Nat.isDigit_of_mem_toDigits (by omega) (by omega) h

theorem paddedDigits_ne_nil (width n : Nat) : paddedDigits width n ≠ [] := by
  intro h
  exact Nat.toDigits_ne_nil (List.append_eq_nil_iff.1 h).2

theorem length_paddedDigits {width n : Nat} (hlen : (Nat.toDigits 10 n).length ≤ width) :
    (paddedDigits width n).length = width := by
  rw [paddedDigits, List.length_append, List.length_replicate]
  omega

theorem ofDigitChars_paddedDigits (width n : Nat) :
    Nat.ofDigitChars 10 (paddedDigits width n) 0 = n := by
  rw [paddedDigits, Nat.ofDigitChars_append, Nat.ofDigitChars_replicate_zero, Nat.mul_zero,
    Nat.ofDigitChars_ten_toDigits]

/-- Digits are read up to the width, or up to what is no digit. -/
theorem digits?_append {width : Nat} {ds rest : List Char} (hne : ds ≠ [])
    (hds : ∀ c ∈ ds, c.isDigit = true)
    (hstop : ds.length = width ∨
      ds.length ≤ width ∧ ∃ c cs, rest = c :: cs ∧ c.isDigit = false) :
    digits? width (ds ++ rest) = some (Nat.ofDigitChars 10 ds 0, rest) := by
  have htaken : ((ds ++ rest).take width).takeWhile Char.isDigit = ds := by
    rcases hstop with rfl | ⟨hlen, c, cs, rfl, hc⟩
    · have hall : (ds ++ []).takeWhile Char.isDigit = ds ++ [].takeWhile Char.isDigit :=
        List.takeWhile_append_of_pos hds
      rw [List.take_left' rfl]
      simpa using hall
    · rw [List.take_append, List.take_of_length_le hlen, List.takeWhile_append_of_pos hds]
      cases width - ds.length <;> simp [hc]
  have hnonempty : ds.isEmpty = false := by simpa using hne
  simp only [digits?, htaken, hnonempty, Bool.false_eq_true, if_false, List.drop_left']

theorem trimStart_cons {c : Char} (h : Text.isBlank c = false) (cs : List Char) :
    Text.trimStart (c :: cs) = c :: cs := by
  rw [Text.trimStart, List.dropWhile_cons_of_neg (by simp [h])]

theorem isBlank_of_isDigit {c : Char} (h : c.isDigit = true) : Text.isBlank c = false := by
  obtain ⟨hlo, hhi⟩ := isDigit_iff.1 h
  simp only [Text.isBlank, Text.blankRanges, List.any_cons, List.any_nil, Bool.or_false,
    Bool.or_eq_false_iff, Bool.and_eq_false_imp, decide_eq_true_eq, decide_eq_false_iff_not]
  omega

theorem trimStart_paddedDigits (width n : Nat) (rest : List Char) :
    Text.trimStart (paddedDigits width n ++ rest) = paddedDigits width n ++ rest := by
  obtain ⟨c, cs, hcs⟩ := List.exists_cons_of_ne_nil (paddedDigits_ne_nil width n)
  have hc : c.isDigit = true := isDigit_of_mem_paddedDigits (hcs ▸ List.mem_cons_self ..)
  rw [hcs, List.cons_append, trimStart_cons (isBlank_of_isDigit hc)]

/-- A field of a text that was written is read back. -/
theorem number?_paddedDigits {n : Nat} (h : n < 100) (rest : List Char) :
    number? 2 (paddedDigits 2 n ++ rest) = some (n, rest) := by
  rw [number?, trimStart_paddedDigits,
    digits?_append (paddedDigits_ne_nil 2 n) (fun _ => isDigit_of_mem_paddedDigits)
      (.inl (length_paddedDigits ((Nat.length_toDigits_le_iff (by omega) (by omega)).2 h))),
    ofDigitChars_paddedDigits]

theorem mark?_cons {c : Char} (h : Text.isBlank c = false) (cs : List Char) :
    mark? c (c :: cs) = some cs := by
  rw [mark?, trimStart_cons h]
  simp

theorem year?_minus (cs : List Char) :
    year? ('-' :: cs) = (digits? cs.length cs).map fun p => (-(p.1 : Int), p.2) := by
  rw [year?, trimStart_cons (by decide)]
  rfl

theorem year?_plus (cs : List Char) :
    year? ('+' :: cs) = (digits? cs.length cs).map fun p => ((p.1 : Int), p.2) := by
  rw [year?, trimStart_cons (by decide)]
  rfl

/-- A year is read back from what it is written as, up to the next dash. -/
theorem year?_renderYear (year : Int) (rest : List Char) :
    year? ((renderYear year).toList ++ '-' :: rest) = some (year, '-' :: rest) := by
  have hsigned (n : Nat) : digits? (paddedDigits 4 n ++ '-' :: rest).length
      (paddedDigits 4 n ++ '-' :: rest) = some (n, '-' :: rest) := by
    rw [digits?_append (paddedDigits_ne_nil 4 n) (fun _ => isDigit_of_mem_paddedDigits)
      (.inr ⟨by simp, '-', rest, rfl, rfl⟩), ofDigitChars_paddedDigits]
  unfold renderYear
  split
  · rename_i h
    obtain ⟨c, cs, hcs⟩ := List.exists_cons_of_ne_nil (paddedDigits_ne_nil 4 year.toNat)
    have hc : c.isDigit = true := isDigit_of_mem_paddedDigits (hcs ▸ List.mem_cons_self ..)
    have hdash : c ≠ '-' := by rintro rfl; simp at hc
    have hplus : c ≠ '+' := by rintro rfl; simp at hc
    have hread : digits? 4 (paddedDigits 4 year.toNat ++ '-' :: rest)
        = some (year.toNat, '-' :: rest) := by
      have hlen := (Nat.length_toDigits_le_iff (b := 10) (k := 4) (n := year.toNat) (by omega)
        (by omega)).2 (by omega)
      rw [digits?_append (paddedDigits_ne_nil 4 _) (fun _ => isDigit_of_mem_paddedDigits)
        (.inl (length_paddedDigits hlen)), ofDigitChars_paddedDigits]
    rw [padded_toList, year?, trimStart_paddedDigits]
    rw [hcs] at hread ⊢
    simp only [List.cons_append] at hread ⊢
    split
    · rename_i heq; exact absurd (List.cons.inj heq).1 hdash
    · rename_i heq; exact absurd (List.cons.inj heq).1 hplus
    · rw [hread, Option.map_some, Int.toNat_of_nonneg h.1]
  · split
    · have htext : ("-" ++ padded 4 year.natAbs).toList ++ '-' :: rest
          = '-' :: (paddedDigits 4 year.natAbs ++ '-' :: rest) := by
        simp [padded_toList]
      rw [htext, year?_minus, hsigned]
      simp only [Option.map_some, Option.some.injEq, Prod.mk.injEq, and_true]
      omega
    · have htext : ("+" ++ padded 4 year.natAbs).toList ++ '-' :: rest
          = '+' :: (paddedDigits 4 year.natAbs ++ '-' :: rest) := by
        simp [padded_toList]
      rw [htext, year?_plus, hsigned]
      simp only [Option.map_some, Option.some.injEq, Prod.mk.injEq, and_true]
      omega

theorem render_toList (t : Timestamp) :
    t.render.toList
      = (renderYear t.year).toList ++ '-' :: (paddedDigits 2 t.month ++ '-' ::
          (paddedDigits 2 t.day ++ 'T' :: (paddedDigits 2 t.hour ++ ':' ::
            (paddedDigits 2 t.minute ++ ':' :: (paddedDigits 2 t.second ++ ['Z']))))) := by
  simp [render, padded_toList]

theorem minusMinutes_zero {t : Timestamp} (hh : t.hour < 24) (hm : t.minute < 60) :
    t.minusMinutes 0 = t := by
  have hneg : ¬ ((t.hour : Int) * 60 + t.minute - 0 < 0) := by omega
  have hover : ¬ (1440 ≤ (t.hour : Int) * 60 + t.minute - 0) := by omega
  have hhour : ((t.hour : Int) * 60 + t.minute - 0).toNat / 60 = t.hour := by omega
  have hminute : ((t.hour : Int) * 60 + t.minute - 0).toNat % 60 = t.minute := by omega
  simp only [minusMinutes, if_neg hneg, if_neg hover, hhour, hminute]

/-- **An instant that a calendar has is read back from its text.** -/
theorem parse?_render {t : Timestamp} (h : Known t) : parse? t.render = some t := by
  obtain ⟨hyear, hmonth, hday, hhour, hminute, hsecond⟩ := h
  have hdays := daysInMonth_le t.year t.month
  have hoffset : offset? ['Z'] = some (0, []) := by decide
  have hfraction : skipFraction? ['Z'] = some ['Z'] := rfl
  have hdash (cs : List Char) := mark?_cons (c := '-') (by decide) cs
  have hcolon (cs : List Char) := mark?_cons (c := ':') (by decide) cs
  have hnow : Timestamp.minusMinutes ⟨t.year, t.month, t.day, t.hour, t.minute, t.second⟩ 0 = t :=
    minusMinutes_zero hhour hminute
  unfold parse?
  rw [render_toList]
  refine Option.bind_eq_some_iff.2 ⟨_, year?_renderYear _ _, ?_⟩
  refine Option.bind_eq_some_iff.2 ⟨_, hdash _, ?_⟩
  refine Option.bind_eq_some_iff.2 ⟨_, number?_paddedDigits (by omega) _, ?_⟩
  refine Option.bind_eq_some_iff.2 ⟨_, hdash _, ?_⟩
  refine Option.bind_eq_some_iff.2 ⟨_, number?_paddedDigits (by omega) _, ?_⟩
  refine Option.bind_eq_some_iff.2 ⟨_, rfl, ?_⟩
  refine Option.bind_eq_some_iff.2 ⟨_, number?_paddedDigits (by omega) _, ?_⟩
  refine Option.bind_eq_some_iff.2 ⟨_, hcolon _, ?_⟩
  refine Option.bind_eq_some_iff.2 ⟨_, number?_paddedDigits (by omega) _, ?_⟩
  refine Option.bind_eq_some_iff.2 ⟨_, hcolon _, ?_⟩
  refine Option.bind_eq_some_iff.2 ⟨_, number?_paddedDigits (by omega) _, ?_⟩
  refine Option.bind_eq_some_iff.2 ⟨_, hfraction, ?_⟩
  refine Option.bind_eq_some_iff.2 ⟨_, hoffset, ?_⟩
  dsimp only
  rw [hnow]
  rw [if_pos]
  exact ⟨rfl, hmonth.1, hmonth.2, hday.1, hday.2, hhour, hminute, hsecond, hyear, hyear⟩

end Timestamp

end AgentOperator
