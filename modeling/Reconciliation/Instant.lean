import Reconciliation.Digits

/-!
# Instants

Points in time, as the API server stamps them on objects and as conditions record them.

* `Instant.toText` -- RFC 3339 in UTC, cut to the second; years outside 0..9999 carry a sign;
* `Instant.ofText?` -- a relaxed reader of RFC 3339: blanks may stand between the parts, the
  separator is `T`, `t` or a blank, the offset is `Z`, `UTC` or hours and minutes;
* `Date` -- the proleptic Gregorian calendar by day number (`Date.ofDays`, `Date.toDays`).
-/

namespace Reconciliation

/-! ## 1. The calendar -/

/-- A day of the proleptic Gregorian calendar. -/
structure Date where
  year : Int
  month : Int
  day : Int
deriving DecidableEq

namespace Date

/-- The date of a day counted from 1970-01-01. Days are counted in eras of 400 years that begin on
the first of March, so that the leap day ends its year. -/
def ofDays (days : Int) : Date :=
  let shifted := days + 719468
  let era := shifted / 146097
  let dayOfEra := shifted % 146097
  let yearOfEra := (dayOfEra - dayOfEra / 1460 + dayOfEra / 36524 - dayOfEra / 146096) / 365
  let dayOfYear := dayOfEra - (365 * yearOfEra + yearOfEra / 4 - yearOfEra / 100)
  let shiftedMonth := (5 * dayOfYear + 2) / 153
  let month := if shiftedMonth < 10 then shiftedMonth + 3 else shiftedMonth - 9
  { year := yearOfEra + era * 400 + (if month ≤ 2 then 1 else 0)
    month
    day := dayOfYear - (153 * shiftedMonth + 2) / 5 + 1 }

/-- The day counted from 1970-01-01. -/
def toDays (d : Date) : Int :=
  let year := if d.month ≤ 2 then d.year - 1 else d.year
  let era := year / 400
  let yearOfEra := year % 400
  let shiftedMonth := if 2 < d.month then d.month - 3 else d.month + 9
  let dayOfYear := (153 * shiftedMonth + 2) / 5 + d.day - 1
  era * 146097 + (yearOfEra * 365 + yearOfEra / 4 - yearOfEra / 100 + dayOfYear) - 719468

/-- Whether the year has a leap day. -/
def isLeap (year : Int) : Bool := year % 4 == 0 && (year % 100 != 0 || year % 400 == 0)

/-- The number of days of a month. -/
def daysInMonth (year month : Int) : Int :=
  if month == 2 then (if isLeap year then 29 else 28)
  else if month == 4 || month == 6 || month == 9 || month == 11 then 30 else 31

end Date

/-- A point in time: whole seconds since 1970-01-01T00:00:00Z and the part of a second after them.
During a leap second the seconds stay and the part exceeds a second. -/
structure Instant where
  seconds : Int
  nanos : Nat
deriving DecidableEq

namespace Instant

instance : Inhabited Instant := ⟨⟨0, 0⟩⟩

/-- Whether the calendar goes as far as the year: about 262,000 years before and after year 0. -/
def isYear (year : Int) : Bool := -262143 ≤ year && year ≤ 262142

/-- Whether the date in UTC is one of the calendar. -/
def isDated (t : Instant) : Bool := isYear (Date.ofDays (t.seconds / 86400)).year

/-- The instant a part of a second after a whole second; only the last second of a minute may be
followed by a leap second. -/
def ofUnix? (seconds : Int) (nanos : Nat) : Option Instant :=
  if nanos < 1000000000 ∨ nanos < 2000000000 ∧ seconds % 60 = 59 then
    let t : Instant := ⟨seconds, nanos⟩
    if t.isDated then some t else none
  else none

/-! ## 2. Written form -/

/-- Four digits; beyond them a sign and at least four digits. -/
def yearText (year : Int) : String :=
  if 0 ≤ year ∧ year ≤ 9999 then Digits.padded 4 year.toNat
  else (if year < 0 then "-" else "+") ++ Digits.padded 4 year.natAbs

/-- RFC 3339 in UTC, cut to the second toward the past. -/
def toText (t : Instant) : String :=
  let date := Date.ofDays (t.seconds / 86400)
  let ofDay := (t.seconds % 86400).toNat
  let second := ofDay % 60 + (if 1000000000 ≤ t.nanos then 1 else 0)
  let pair := Digits.padded 2
  yearText date.year ++ "-" ++ pair date.month.toNat ++ "-" ++ pair date.day.toNat ++ "T" ++
    pair (ofDay / 3600) ++ ":" ++ pair (ofDay / 60 % 60) ++ ":" ++ pair second ++ "Z"

/-! ## 3. Reading -/

/-- The blanks of the Unicode property White_Space. -/
def isBlank (c : Char) : Bool :=
  let n := c.toNat
  (9 ≤ n && n ≤ 13) || n == 0x20 || n == 0x85 || n == 0xA0 || n == 0x1680 ||
    (0x2000 ≤ n && n ≤ 0x200A) || n == 0x2028 || n == 0x2029 || n == 0x202F || n == 0x205F ||
    n == 0x3000

/-- Drops blanks. -/
def skipBlanks (cs : List Char) : List Char := cs.dropWhile isBlank

/-- Reads one to `width` digits. -/
def digits? (width : Nat) (cs : List Char) : Option (Nat × List Char) :=
  let run := (cs.take width).takeWhile Char.isDigit
  if run.isEmpty then none else some (Digits.value run, cs.drop run.length)

/-- Reads a number after blanks. -/
def field? (width : Nat) (cs : List Char) : Option (Nat × List Char) :=
  digits? width (skipBlanks cs)

/-- Reads a year: up to four digits, or a sign and any number of digits. -/
def year? (cs : List Char) : Option (Int × List Char) :=
  match skipBlanks cs with
  | '-' :: rest => (digits? rest.length rest).map fun (n, rest) => (-(n : Int), rest)
  | '+' :: rest => (digits? rest.length rest).map fun (n, rest) => ((n : Int), rest)
  | rest => (digits? 4 rest).map fun (n, rest) => ((n : Int), rest)

/-- Reads a mark after blanks. -/
def mark? (c : Char) (cs : List Char) : Option (List Char) :=
  match skipBlanks cs with
  | c' :: rest => if c' = c then some rest else none
  | [] => none

/-- Reads an optional fraction as nanoseconds; digits beyond the ninth are dropped. -/
def fraction? (cs : List Char) : Option (Nat × List Char) :=
  match cs with
  | '.' :: rest => do
    let run := (rest.take 9).takeWhile Char.isDigit
    if run.isEmpty then none
    some (Digits.value run * Nat.pow 10 (9 - run.length), rest.dropWhile Char.isDigit)
  | rest => some (0, rest)

/-- Reads two digits as a number below the bound. -/
def pair? (bound : Nat) : List Char → Option (Nat × List Char)
  | a :: b :: rest =>
    if a.isDigit && b.isDigit && Digits.value [a, b] < bound then some (Digits.value [a, b], rest)
    else none
  | _ => none

/-- Reads an offset from UTC in seconds: `Z`, `UTC`, or a sign, hours and minutes with colons or
blanks between them. -/
def offset? (cs : List Char) : Option (Int × List Char) :=
  match skipBlanks cs with
  | c :: rest =>
    if c = 'Z' ∨ c = 'z' then some (0, rest)
    else if ((c :: rest).take 3).map Char.toUpper = ['U', 'T', 'C'] then some (0, rest.drop 2)
    else if c = '+' ∨ c = '-' ∨ c = '\u2212' then do
      let (hours, rest) ← pair? 100 rest
      let (minutes, rest) ← pair? 60 (rest.dropWhile fun c => c = ':' || isBlank c)
      if hours < 24 then
        let seconds : Int := hours * 3600 + minutes * 60
        some (if c = '+' then seconds else -seconds, rest)
      else none
    else none
  | [] => none

/-- The separator between date and time. -/
def separator? : List Char → Option (List Char)
  | c :: rest => if c = 'T' ∨ c = 't' ∨ c = ' ' then some rest else none
  | [] => none

/-- The instant a text names. The calendar has to have its date both at the offset and in UTC. -/
def ofText? (text : String) : Option Instant := do
  let (year, cs) ← year? text.toList
  let (month, cs) ← field? 2 (← mark? '-' cs)
  let (day, cs) ← field? 2 (← mark? '-' cs)
  let (hour, cs) ← field? 2 (← separator? cs)
  let (minute, cs) ← field? 2 (← mark? ':' cs)
  let (second, cs) ← field? 2 (← mark? ':' cs)
  let (nanos, cs) ← fraction? cs
  let (offset, cs) ← offset? cs
  if !(skipBlanks cs).isEmpty then none
  else if !isYear year ∨ month < 1 ∨ 12 < month ∨ day < 1 ∨
      Date.daysInMonth year month < day ∨ 23 < hour ∨ 59 < minute ∨ 60 < second then none
  else
    let days := Date.toDays ⟨year, month, day⟩
    let leap := if second = 60 then 1 else 0
    let t : Instant :=
      ⟨days * 86400 + hour * 3600 + minute * 60 + (second - leap : Nat) - offset,
        nanos + leap * 1000000000⟩
    if t.isDated then some t else none

end Instant

end Reconciliation
