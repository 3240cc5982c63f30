import Reconciliation.Instant

/-!
# Written instants

An instant is written to the second. What is read back is the second that was written
(`Instant.cut`), provided that the calendar goes as far:

* `Date.exists_split`, `Date.Split` -- a day of an era of 400 years has a century, a group of four
  years, a year and a day, from which all fields of the date are read off;
* **`Date.toDays_ofDays`** -- the day of a date is the day it was made from;
* **`Instant.ofText?_toText`** -- what a written instant reads as; it is the instant itself just if
  that is a second of the calendar (`Instant.IsWhole`).
-/

namespace Reconciliation

/-! ## 1. The calendar -/

namespace Date

/-- Day `n` of an era is day `d` of year `k` in the group of four years `q` of the century `c`. -/
structure Split (n c q k d : Int) : Prop where
  sum : n = 36524 * c + 1461 * q + 365 * k + d
  century : 0 ≤ c ∧ c ≤ 3
  group : 0 ≤ q ∧ q ≤ 24
  year : 0 ≤ k ∧ k ≤ 3
  day : 0 ≤ d ∧ d ≤ 365
  /-- Only the last year of a group has a leap day, the last group of a century only in the last
  century. -/
  leap : d = 365 → k = 3 ∧ (q < 24 ∨ c = 3)

theorem exists_split {n : Int} (h0 : 0 ≤ n) (h1 : n < 146097) : ∃ c q k d, Split n c q k d := by
  have hc : ∃ c, 0 ≤ c ∧ c ≤ 3 ∧ 36524 * c ≤ n ∧ (n < 36524 * (c + 1) ∨ c = 3) :=
    ⟨if n / 36524 ≤ 3 then n / 36524 else 3, by omega⟩
  obtain ⟨c, hc0, hc3, hcn, hcn'⟩ := hc
  have hq : ∃ q, 0 ≤ q ∧ q ≤ 24 ∧ 1461 * q ≤ n - 36524 * c ∧ n - 36524 * c < 1461 * (q + 1) :=
    ⟨(n - 36524 * c) / 1461, by omega⟩
  obtain ⟨q, hq0, hq24, hqn, hqn'⟩ := hq
  have hk : ∃ k, 0 ≤ k ∧ k ≤ 3 ∧ 365 * k ≤ n - 36524 * c - 1461 * q ∧
      (n - 36524 * c - 1461 * q < 365 * (k + 1) ∨ k = 3) :=
    ⟨if (n - 36524 * c - 1461 * q) / 365 ≤ 3 then (n - 36524 * c - 1461 * q) / 365 else 3,
      by omega⟩
  obtain ⟨k, hk0, hk3, hkn, hkn'⟩ := hk
  exact ⟨c, q, k, n - 36524 * c - 1461 * q - 365 * k,
    { sum := by omega, century := by omega, group := by omega, year := by omega, day := by omega,
      leap := by omega }⟩

namespace Split

variable {n c q k d : Int}

theorem yearOfEra (h : Split n c q k d) :
    (n - n / 1460 + n / 36524 - n / 146096) / 365 = 100 * c + 4 * q + k := by
  obtain ⟨hs, hc, hq, hk, hd, hl⟩ := h
  have h1 : n / 1460 = 25 * c + q + (if 24 * c + q + 365 * k + d < 1460 then 0 else 1) := by
    split <;> omega
  have h2 : n / 36524 = if n = 146096 then 4 else c := by split <;> omega
  have h3 : n / 146096 = if n = 146096 then 1 else 0 := by split <;> omega
  rw [h1, h2, h3]
  split <;> split <;> omega

theorem dayOfYear (h : Split n c q k d) {year : Int} (hy : year = 100 * c + 4 * q + k) :
    n - (365 * year + year / 4 - year / 100) = d := by
  obtain ⟨hs, hc, hq, hk, hd, hl⟩ := h
  omega

/-- The year that the leap day ends has one. -/
theorem isLeap (h : Split n c q k d) (hd : d = 365) (era : Int) :
    Date.isLeap (100 * c + 4 * q + k + era * 400 + 1) = true := by
  obtain ⟨hk, hq⟩ := h.leap hd
  have hc := h.century
  have hg := h.group
  have h4 : (100 * c + 4 * q + k + era * 400 + 1) % 4 = 0 := by omega
  have h100 : (100 * c + 4 * q + k + era * 400 + 1) % 100 ≠ 0 ∨
      (100 * c + 4 * q + k + era * 400 + 1) % 400 = 0 := by omega
  simpa [Date.isLeap, h4] using h100

end Split

/-- The month of a month counted from March. -/
def monthOf (m : Int) : Int := if m < 10 then m + 3 else m - 9

/-- A date by the parts of its day. -/
theorem ofDays_eq (days : Int) :
    ∃ era c q k d, Split (days + 719468 - 146097 * era) c q k d ∧
      ofDays days =
        { year := 100 * c + 4 * q + k + era * 400 +
            if monthOf ((5 * d + 2) / 153) ≤ 2 then 1 else 0
          month := monthOf ((5 * d + 2) / 153)
          day := d - (153 * ((5 * d + 2) / 153) + 2) / 5 + 1 } := by
  have hmod : (days + 719468) % 146097 = days + 719468 - 146097 * ((days + 719468) / 146097) := by
    omega
  obtain ⟨c, q, k, d, h⟩ := exists_split (n := (days + 719468) % 146097) (by omega) (by omega)
  refine ⟨(days + 719468) / 146097, c, q, k, d, hmod ▸ h, ?_⟩
  unfold ofDays monthOf
  simp only [h.yearOfEra, h.dayOfYear rfl]

/-- **The day of a date is the day it was made from.** -/
theorem toDays_ofDays (days : Int) : toDays (ofDays days) = days := by
  obtain ⟨era, c, q, k, d, h, he⟩ := ofDays_eq days
  obtain ⟨hs, hc, hq, hk, hd, hl⟩ := h
  have hm : 0 ≤ (5 * d + 2) / 153 ∧ (5 * d + 2) / 153 ≤ 11 := by omega
  rw [he]
  generalize hmd : (5 * d + 2) / 153 = m at hm
  unfold toDays monthOf
  by_cases hlow : m < 10
  · have h1 : ¬m + 3 ≤ 2 := by omega
    have h2 : 2 < m + 3 := by omega
    simp only [hlow, if_true, h1, h2, if_false]
    omega
  · have h1 : m - 9 ≤ 2 := by omega
    have h2 : ¬2 < m - 9 := by omega
    simp only [hlow, if_true, h1, h2, if_false]
    omega

theorem month_ofDays (days : Int) : 1 ≤ (ofDays days).month ∧ (ofDays days).month ≤ 12 := by
  obtain ⟨era, c, q, k, d, h, he⟩ := ofDays_eq days
  obtain ⟨hs, hc, hq, hk, hd, hl⟩ := h
  rw [he]
  show 1 ≤ monthOf ((5 * d + 2) / 153) ∧ monthOf ((5 * d + 2) / 153) ≤ 12
  unfold monthOf
  split <;> omega

theorem daysInMonth_le (year month : Int) : daysInMonth year month ≤ 31 := by
  unfold daysInMonth
  split
  · split <;> omega
  · split <;> omega

theorem day_ofDays (days : Int) :
    1 ≤ (ofDays days).day ∧
      (ofDays days).day ≤ daysInMonth (ofDays days).year (ofDays days).month := by
  obtain ⟨era, c, q, k, d, h, he⟩ := ofDays_eq days
  have hleap := fun hd => h.isLeap hd era
  obtain ⟨hs, hc, hq, hk, hd, hl⟩ := h
  have hm : (5 * d + 2) / 153 = 0 ∨ (5 * d + 2) / 153 = 1 ∨ (5 * d + 2) / 153 = 2 ∨
      (5 * d + 2) / 153 = 3 ∨ (5 * d + 2) / 153 = 4 ∨ (5 * d + 2) / 153 = 5 ∨
      (5 * d + 2) / 153 = 6 ∨ (5 * d + 2) / 153 = 7 ∨ (5 * d + 2) / 153 = 8 ∨
      (5 * d + 2) / 153 = 9 ∨ (5 * d + 2) / 153 = 10 ∨ (5 * d + 2) / 153 = 11 := by omega
  rw [he]
  rcases hm with hm | hm | hm | hm | hm | hm | hm | hm | hm | hm | hm | hm <;>
    simp [hm, monthOf, daysInMonth] <;> try omega
  by_cases h365 : d = 365
  · simp [hleap h365]
    omega
  · split <;> omega

end Date

namespace Instant

/-! ## 2. Reading the parts -/

/-- What follows a number begins with no digit. -/
def Stops (rest : List Char) : Prop := ∀ c ∈ rest.head?, c.isDigit = false

theorem isBlank_of_isDigit {c : Char} (h : c.isDigit = true) : isBlank c = false := by
  have hn : 48 ≤ c.toNat ∧ c.toNat ≤ 57 := by
    simp only [Char.isDigit, Bool.and_eq_true, decide_eq_true_eq, UInt32.le_iff_toNat_le] at h
    exact h
  unfold isBlank
  generalize c.toNat = n at hn
  simp only [Bool.or_eq_false_iff, Bool.and_eq_false_iff, decide_eq_false_iff_not,
    beq_eq_false_iff_ne]
  omega

theorem skipBlanks_cons {c : Char} (h : isBlank c = false) (rest : List Char) :
    skipBlanks (c :: rest) = c :: rest := by
  simp [skipBlanks, h]

section Numbers

variable {width n : Nat} {rest : List Char}

theorem exists_padded (width n : Nat) :
    ∃ c digits, (Digits.padded width n).toList = c :: digits ∧ c.isDigit = true := by
  cases h : (Digits.padded width n).toList with
  | nil => exact absurd h (Digits.padded_ne_nil width n)
  | cons c digits =>
    exact ⟨c, digits, rfl, Digits.isDigit_of_mem_padded (h ▸ List.mem_cons_self)⟩

theorem digits?_padded {bound : Nat} (hrest : Stops rest)
    (hbound : (Digits.padded width n).toList.length ≤ bound) :
    digits? bound ((Digits.padded width n).toList ++ rest) = some (n, rest) := by
  have hdigits : ∀ c ∈ (Digits.padded width n).toList, c.isDigit = true :=
    fun c hc => Digits.isDigit_of_mem_padded hc
  have hrun : (((Digits.padded width n).toList ++ rest).take bound).takeWhile Char.isDigit =
      (Digits.padded width n).toList := by
    rw [List.take_append, List.take_of_length_le hbound, List.takeWhile_append_of_pos hdigits]
    have hstop : (rest.take (bound - (Digits.padded width n).toList.length)).takeWhile
        Char.isDigit = [] := by
      cases rest with
      | nil => simp
      | cons c rest =>
        have hc : c.isDigit = false := hrest c rfl
        cases bound - (Digits.padded width n).toList.length <;> simp [hc]
    rw [hstop, List.append_nil]
  have hne : (Digits.padded width n).toList.isEmpty = false := by
    simpa using Digits.padded_ne_nil width n
  unfold digits?
  simp only [hrun, hne, Digits.value_padded, List.drop_left]
  rfl

theorem skipBlanks_padded :
    skipBlanks ((Digits.padded width n).toList ++ rest) =
      (Digits.padded width n).toList ++ rest := by
  obtain ⟨c, digits, hd, hc⟩ := exists_padded width n
  rw [hd, List.cons_append, skipBlanks_cons (isBlank_of_isDigit hc)]

theorem field?_padded (hn : n < 100) (hrest : Stops rest) :
    field? 2 ((Digits.padded 2 n).toList ++ rest) = some (n, rest) := by
  unfold field?
  rw [skipBlanks_padded]
  exact digits?_padded hrest (Nat.le_of_eq (Digits.length_padded hn (by omega)))

end Numbers

theorem year?_yearText (year : Int) {rest : List Char} (hrest : Stops rest) :
    year? ((yearText year).toList ++ rest) = some (year, rest) := by
  unfold yearText
  by_cases hy : 0 ≤ year ∧ year ≤ 9999
  · have hlen : (Digits.padded 4 year.toNat).toList.length = 4 :=
      Digits.length_padded (show year.toNat < 10000 by omega) (by omega)
    have hread := digits?_padded (n := year.toNat) hrest (Nat.le_of_eq hlen)
    obtain ⟨c, digits, hd, hc⟩ := exists_padded 4 year.toNat
    have hminus : c ≠ '-' := by
      intro h
      subst h
      cases hc
    have hplus : c ≠ '+' := by
      intro h
      subst h
      cases hc
    rw [if_pos hy]
    unfold year?
    rw [skipBlanks_padded]
    rw [hd, List.cons_append] at hread ⊢
    split
    · rename_i heq
      exact absurd (List.cons.inj heq).1 hminus
    · rename_i heq
      exact absurd (List.cons.inj heq).1 hplus
    · rw [hread]
      show some ((year.toNat : Int), rest) = some (year, rest)
      rw [Int.toNat_of_nonneg hy.1]
  · have hread : digits? ((Digits.padded 4 year.natAbs).toList ++ rest).length
        ((Digits.padded 4 year.natAbs).toList ++ rest) = some (year.natAbs, rest) :=
      digits?_padded hrest (by simp)
    have hminus : "-".toList = ['-'] := rfl
    have hplus : "+".toList = ['+'] := rfl
    rw [if_neg hy, String.toList_append]
    unfold year?
    by_cases hneg : year < 0
    · rw [if_pos hneg, hminus, List.append_assoc, List.singleton_append, skipBlanks_cons rfl]
      simp only [hread, Option.map_some]
      have habs : -(year.natAbs : Int) = year := by omega
      rw [habs]
    · rw [if_neg hneg, hplus, List.append_assoc, List.singleton_append, skipBlanks_cons rfl]
      simp only [hread, Option.map_some]
      have habs : (year.natAbs : Int) = year := by omega
      rw [habs]

theorem stops_cons {c : Char} (h : c.isDigit = false) (rest : List Char) : Stops (c :: rest) := by
  intro c' hc'
  obtain rfl : c = c' := Option.some.inj hc'
  exact h

theorem bind_of_eq_some {α β : Type} {x : Option α} {a : α} {next : α → Option β}
    (h : x = some a) :
    (x >>= next) = next a := by
  rw [h]
  rfl

theorem mark?_cons {c : Char} (h : isBlank c = false) (rest : List Char) :
    mark? c (c :: rest) = some rest := by
  unfold mark?
  rw [skipBlanks_cons h]
  simp

/-! ## 3. Reading the whole -/

/-- The characters of a written instant, by its fields. -/
def textOf (year : Int) (month day hour minute second : Nat) : List Char :=
  (yearText year).toList ++ '-' :: ((Digits.padded 2 month).toList ++ '-' ::
    ((Digits.padded 2 day).toList ++ 'T' :: ((Digits.padded 2 hour).toList ++ ':' ::
      ((Digits.padded 2 minute).toList ++ ':' :: ((Digits.padded 2 second).toList ++ ['Z'])))))

/-- Reading takes the fields off one by one. -/
theorem ofText?_textOf {text : String} {year : Int} {month day hour minute second : Nat}
    (h : text.toList = textOf year month day hour minute second) (hmonth : month < 100)
    (hday : day < 100) (hhour : hour < 100) (hminute : minute < 100) (hsecond : second < 100) :
    ofText? text =
      if !isYear year ∨ month < 1 ∨ 12 < month ∨ day < 1 ∨
          Date.daysInMonth year month < day ∨ 23 < hour ∨ 59 < minute ∨ 60 < second then none
      else
        let leap := if second = 60 then 1 else 0
        let t : Instant :=
          ⟨Date.toDays ⟨year, month, day⟩ * 86400 + hour * 3600 + minute * 60 +
            (second - leap : Nat), leap * 1000000000⟩
        if t.isDated then some t else none := by
  have hfraction : fraction? ['Z'] = some (0, ['Z']) := rfl
  have hoffset : offset? ['Z'] = some (0, []) := rfl
  have hseparator : ∀ rest, separator? ('T' :: rest) = some rest := fun _ => rfl
  unfold ofText?
  rw [h]
  refine (bind_of_eq_some (year?_yearText year (stops_cons rfl _))).trans ?_
  refine (bind_of_eq_some (mark?_cons rfl _)).trans ?_
  refine (bind_of_eq_some (field?_padded hmonth (stops_cons rfl _))).trans ?_
  refine (bind_of_eq_some (mark?_cons rfl _)).trans ?_
  refine (bind_of_eq_some (field?_padded hday (stops_cons rfl _))).trans ?_
  refine (bind_of_eq_some (hseparator _)).trans ?_
  refine (bind_of_eq_some (field?_padded hhour (stops_cons rfl _))).trans ?_
  refine (bind_of_eq_some (mark?_cons rfl _)).trans ?_
  refine (bind_of_eq_some (field?_padded hminute (stops_cons rfl _))).trans ?_
  refine (bind_of_eq_some (mark?_cons rfl _)).trans ?_
  refine (bind_of_eq_some (field?_padded hsecond (stops_cons rfl _))).trans ?_
  refine (bind_of_eq_some hfraction).trans ?_
  refine (bind_of_eq_some hoffset).trans ?_
  simp [skipBlanks]

/-- The second that is written: a part of a second is dropped, and a leap second is kept where the
calendar has one. -/
def cut (t : Instant) : Instant :=
  if t.nanos < 1000000000 then ⟨t.seconds, 0⟩
  else if t.seconds % 60 = 59 then ⟨t.seconds, 1000000000⟩
  else ⟨t.seconds + 1, 0⟩

/-- The second of the minute that is written. -/
def writtenSecond (t : Instant) : Nat :=
  (t.seconds % 86400).toNat % 60 + (if 1000000000 ≤ t.nanos then 1 else 0)

theorem toList_toText (t : Instant) :
    t.toText.toList =
      textOf (Date.ofDays (t.seconds / 86400)).year (Date.ofDays (t.seconds / 86400)).month.toNat
        (Date.ofDays (t.seconds / 86400)).day.toNat ((t.seconds % 86400).toNat / 3600)
        ((t.seconds % 86400).toNat / 60 % 60) t.writtenSecond := by
  have hdash : "-".toList = ['-'] := rfl
  have hcolon : ":".toList = [':'] := rfl
  have ht : "T".toList = ['T'] := rfl
  have hz : "Z".toList = ['Z'] := rfl
  unfold toText textOf writtenSecond
  simp only [String.toList_append, hdash, hcolon, ht, hz, List.append_assoc,
    List.cons_append, List.nil_append]

/-- Within the written fields lies the cut instant. -/
theorem cut_eq (t : Instant) :
    t.cut = ⟨t.seconds / 86400 * 86400 + ((t.seconds % 86400).toNat / 3600 : Nat) * 3600 +
        ((t.seconds % 86400).toNat / 60 % 60 : Nat) * 60 +
        (t.writtenSecond - (if t.writtenSecond = 60 then 1 else 0) : Nat),
      (if t.writtenSecond = 60 then 1 else 0) * 1000000000⟩ := by
  unfold cut writtenSecond
  by_cases hn : t.nanos < 1000000000
  · have hn' : ¬1000000000 ≤ t.nanos := by omega
    have h60 : ¬(t.seconds % 86400).toNat % 60 + 0 = 60 := by omega
    simp only [hn, hn', h60, if_true, if_false, Instant.mk.injEq, and_true]
    omega
  · have hn' : 1000000000 ≤ t.nanos := by omega
    by_cases hs : t.seconds % 60 = 59
    · have h60 : (t.seconds % 86400).toNat % 60 + 1 = 60 := by omega
      simp only [hn, hn', hs, h60, if_true, if_false, Instant.mk.injEq, and_true]
      omega
    · have h60 : ¬(t.seconds % 86400).toNat % 60 + 1 = 60 := by omega
      simp only [hn, hn', hs, h60, if_true, if_false, Instant.mk.injEq, and_true]
      omega

/-- Cutting stays within the day. -/
theorem isDated_cut (t : Instant) : t.cut.isDated = t.isDated := by
  have hday : t.cut.seconds / 86400 = t.seconds / 86400 := by
    unfold cut
    split
    · rfl
    · split
      · rfl
      · show (t.seconds + 1) / 86400 = t.seconds / 86400
        omega
  unfold isDated
  rw [hday]

/-- **A written instant reads as its second**, if the calendar goes as far. -/
theorem ofText?_toText (t : Instant) :
    ofText? t.toText = if t.isDated then some t.cut else none := by
  have hm := Date.month_ofDays (t.seconds / 86400)
  have hd := Date.day_ofDays (t.seconds / 86400)
  have h31 := Date.daysInMonth_le (Date.ofDays (t.seconds / 86400)).year
    (Date.ofDays (t.seconds / 86400)).month
  have hdays : Date.toDays ⟨(Date.ofDays (t.seconds / 86400)).year,
      ((Date.ofDays (t.seconds / 86400)).month.toNat : Int),
      ((Date.ofDays (t.seconds / 86400)).day.toNat : Int)⟩ = t.seconds / 86400 := by
    rw [Int.toNat_of_nonneg (by omega), Int.toNat_of_nonneg (by omega)]
    exact Date.toDays_ofDays _
  have hmonth : ((Date.ofDays (t.seconds / 86400)).month.toNat : Int) =
      (Date.ofDays (t.seconds / 86400)).month := Int.toNat_of_nonneg (by omega)
  have hsecond : t.writtenSecond ≤ 60 := by
    unfold writtenSecond
    split <;> omega
  rw [ofText?_textOf t.toList_toText (by omega) (by omega) (by omega) (by omega) (by omega),
    hdays, hmonth]
  show (if _ then none else if isDated _ = true then some _ else none) = _
  rw [← cut_eq, isDated_cut]
  by_cases hy : t.isDated = true
  · have hy' : isYear (Date.ofDays (t.seconds / 86400)).year = true := hy
    rw [if_neg, if_pos hy]
    rw [hy']
    simp
    omega
  · have hy' : isYear (Date.ofDays (t.seconds / 86400)).year = false := Bool.not_eq_true _ ▸ hy
    rw [if_pos, if_neg hy]
    rw [hy']
    exact .inl rfl

/-- Nothing more is cut off a cut instant. -/
theorem toText_cut (t : Instant) : t.cut.toText = t.toText := by
  have hfields : t.cut.seconds / 86400 = t.seconds / 86400 ∧
      (t.cut.seconds % 86400).toNat / 3600 = (t.seconds % 86400).toNat / 3600 ∧
      (t.cut.seconds % 86400).toNat / 60 % 60 = (t.seconds % 86400).toNat / 60 % 60 ∧
      t.cut.writtenSecond = t.writtenSecond := by
    unfold cut writtenSecond
    by_cases hn : t.nanos < 1000000000
    · have hn' : ¬1000000000 ≤ t.nanos := by omega
      simp [hn, hn']
    · have hn' : 1000000000 ≤ t.nanos := by omega
      by_cases hs : t.seconds % 60 = 59
      · simp [hn, hn', hs]
      · simp only [hn, hn', hs, if_true, if_false]
        refine ⟨by omega, by omega, by omega, ?_⟩
        show ((t.seconds + 1) % 86400).toNat % 60 + 0 = _
        omega
  obtain ⟨hday, hhour, hminute, hsecond⟩ := hfields
  apply String.toList_inj.1
  rw [toList_toText, toList_toText, hday, hhour, hminute, hsecond]

/-- An instant which is a second of the calendar, possibly a leap second. -/
def IsWhole (t : Instant) : Prop :=
  t.isDated = true ∧ (t.nanos = 0 ∨ t.nanos = 1000000000 ∧ t.seconds % 60 = 59)

instance (t : Instant) : Decidable t.IsWhole := inferInstanceAs (Decidable (_ ∧ _))

/-- **The instants that survive being written.** -/
theorem ofText?_toText_eq_some_iff (t : Instant) : ofText? t.toText = some t ↔ t.IsWhole := by
  have hcut : t.cut = t ↔ t.nanos = 0 ∨ t.nanos = 1000000000 ∧ t.seconds % 60 = 59 := by
    obtain ⟨seconds, nanos⟩ := t
    simp only [cut]
    split
    · simp only [mk.injEq, true_and]
      omega
    · split
      · simp only [mk.injEq, true_and]
        omega
      · simp only [mk.injEq]
        omega
  rw [ofText?_toText, IsWhole, ← hcut]
  split <;> simp_all

/-- An instant of the calendar is written as a whole second. -/
theorem isWhole_cut {t : Instant} (h : t.isDated = true) : t.cut.IsWhole := by
  rw [← ofText?_toText_eq_some_iff, toText_cut, ofText?_toText, if_pos h]

end Instant

end Reconciliation
