/-!
# Reading UTF-8

Bytes are read as characters whatever they are: where they are no UTF-8, one replacement character
stands for the longest start of a character, or for a byte that starts none.

* `Utf8.next` -- the character at the start of the bytes, and the bytes after it;
* `Utf8.decode` -- all characters.
-/

namespace Reconciliation.Utf8

/-- What the first byte of a character says: its own part of the code point, the number of bytes to
come, and the bounds of the next one. -/
structure Lead where
  part : Nat
  more : Nat
  low : Nat
  high : Nat

/-- The first bytes of characters. The bounds of the second byte keep out code points that are
written too long, surrogates, and those beyond the last one. -/
def lead? (b : Nat) : Option Lead :=
  if b < 0x80 then some ⟨b, 0, 0, 0⟩
  else if b < 0xC2 then none
  else if b < 0xE0 then some ⟨b - 0xC0, 1, 0x80, 0xBF⟩
  else if b < 0xF0 then
    some ⟨b - 0xE0, 2, if b = 0xE0 then 0xA0 else 0x80, if b = 0xED then 0x9F else 0xBF⟩
  else if b < 0xF5 then
    some ⟨b - 0xF0, 3, if b = 0xF0 then 0x90 else 0x80, if b = 0xF4 then 0x8F else 0xBF⟩
  else none

/-- Reads so many bytes on to a code point, the next one within the bounds; at the first byte out of
bounds there is no code point, and the byte is left. -/
def readOn (low high point : Nat) : Nat → List UInt8 → Option Nat × List UInt8
  | 0, bs => (some point, bs)
  | _ + 1, [] => (none, [])
  | n + 1, b :: bs =>
    if low ≤ b.toNat ∧ b.toNat ≤ high then
      readOn 0x80 0xBF (point * 64 + b.toNat % 64) n bs
    else (none, b :: bs)

theorem length_readOn_le (low high point n : Nat) (bs : List UInt8) :
    (readOn low high point n bs).2.length ≤ bs.length := by
  induction n generalizing low high point bs with
  | zero => simp [readOn]
  | succ n ih =>
    cases bs with
    | nil => simp [readOn]
    | cons b bs =>
      rw [readOn]
      split
      · exact Nat.le_succ_of_le (ih _ _ _ _)
      · exact Nat.le_refl _

/-- Reads the character that a byte starts, if it starts one, and leaves the bytes after it. -/
def next (b : UInt8) (bs : List UInt8) : Option Nat × List UInt8 :=
  match lead? b.toNat with
  | some l => readOn l.low l.high l.part l.more bs
  | none => (none, bs)

theorem length_next_le (b : UInt8) (bs : List UInt8) : (next b bs).2.length ≤ bs.length := by
  rw [next]
  split
  · exact length_readOn_le _ _ _ _ _
  · exact Nat.le_refl _

/-- The characters of the bytes. -/
def decode : List UInt8 → List Char
  | [] => []
  | b :: bs => (next b bs).1.elim '\uFFFD' Char.ofNat :: decode (next b bs).2
termination_by bs => bs.length
decreasing_by exact Nat.lt_succ_of_le (length_next_le b bs)

end Reconciliation.Utf8
