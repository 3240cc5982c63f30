/-!
# Decimal digits

Runs of the digits 0 to 9, as numbers, instants and settings are written with them.

* `Digits.value` -- the number that a run denotes;
* `Digits.readBelow` -- the start of a run that denotes a number below a bound;
* `Digits.hexValue?` -- the value of one digit of base sixteen;
* `Digits.padded` -- a number with at least so many digits, which is read back from them
  (`Digits.value_padded`), so that no two numbers are written alike.
-/

namespace Reconciliation.Digits

/-- The number that a run of digits denotes. -/
def value (digits : List Char) : Nat :=
  digits.foldl (fun n c => n * 10 + (c.toNat - '0'.toNat)) 0

/-- Reads on after a number as long as the result stays below the bound, and leaves the digits from
the first that leads beyond it. -/
def readBelow (bound : Nat) : Nat → List Char → Nat × List Char
  | n, [] => (n, [])
  | n, c :: rest =>
    let next := n * 10 + (c.toNat - '0'.toNat)
    if next < bound then readBelow bound next rest else (n, c :: rest)

/-- The value of a digit of base sixteen, in either case. -/
def hexValue? (c : Char) : Option Nat :=
  if c.isDigit then some (c.toNat - '0'.toNat)
  else if 'a' ≤ c ∧ c ≤ 'f' then some (c.toNat - 'a'.toNat + 10)
  else if 'A' ≤ c ∧ c ≤ 'F' then some (c.toNat - 'A'.toNat + 10)
  else none

/-- A number with at least `width` digits, zeros in front. -/
def padded (width n : Nat) : String :=
  let digits := toString n
  "".pushn '0' (width - digits.length) ++ digits

theorem toList_padded (width n : Nat) :
    (padded width n).toList =
      List.replicate (width - (Nat.toDigits 10 n).length) '0' ++ Nat.toDigits 10 n := by
  have hpush : ∀ k, ("".pushn '0' k).toList = List.replicate k '0' := by
    intro k
    rw [String.pushn_eq_repeat_push]
    induction k with
    | zero => rfl
    | succ k ih => rw [Nat.repeat, String.toList_push, ih, ← List.replicate_succ']
  unfold padded
  rw [String.toList_append, hpush, Nat.toString_eq_ofList_toDigits]
  simp

theorem isDigit_of_mem_padded {width n : Nat} {c : Char} (h : c ∈ (padded width n).toList) :
    c.isDigit = true := by
  rw [toList_padded, List.mem_append] at h
  rcases h with h | h
  · rw [(List.mem_replicate.1 h).2]
    rfl
  · exact Nat.isDigit_of_mem_toDigits (by omega) (by omega) h

theorem length_padded {width n : Nat} (h : n < Nat.pow 10 width) (hw : 0 < width) :
    (padded width n).toList.length = width := by
  have hle := (Nat.length_toDigits_le_iff (by omega) hw).2 h
  rw [toList_padded, List.length_append, List.length_replicate]
  omega

theorem padded_ne_nil (width n : Nat) : (padded width n).toList ≠ [] := by
  rw [toList_padded]
  exact List.append_ne_nil_of_right_ne_nil _ Nat.toDigits_ne_nil

theorem value_eq_ofDigitChars (digits : List Char) :
    value digits = Nat.ofDigitChars 10 digits 0 := by
  rw [Nat.ofDigitChars_eq_foldl, value]
  simp only [Nat.mul_comm]

/-- A written number is read back. -/
@[simp] theorem value_padded (width n : Nat) : value (padded width n).toList = n := by
  rw [value_eq_ofDigitChars, toList_padded, Nat.ofDigitChars_append,
    Nat.ofDigitChars_replicate_zero, Nat.mul_zero, Nat.ofDigitChars_ten_toDigits]

/-- Numbers that are written alike are the same. -/
theorem eq_of_padded_eq {width a b : Nat} (h : padded width a = padded width b) : a = b := by
  rw [← value_padded width a, h, value_padded]

theorem padded_zero (n : Nat) : padded 0 n = toString n := by
  have hpush : "".pushn '0' 0 = "" := rfl
  simp [padded, hpush]

theorem eq_of_toString_eq {a b : Nat} (h : toString a = toString b) : a = b := by
  rw [← padded_zero, ← padded_zero] at h
  exact eq_of_padded_eq h

end Reconciliation.Digits
