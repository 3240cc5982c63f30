/-!
# Fingerprints of texts

Texts as numbers of 64 bits, by the rule FNV-1a: each byte of the UTF-8 form is taken into the
number by an exclusive or, and the result is multiplied by a prime. Equal texts have equal
fingerprints; different ones may share one.

* `Fingerprint.extend` -- takes a text into a fingerprint;
* `Fingerprint.ofTexts` -- the fingerprint of texts in a row.
-/

namespace Reconciliation.Fingerprint

/-- The fingerprint of the empty text. -/
def start : UInt64 := 0xCBF29CE484222325

/-- Takes a byte into a fingerprint. -/
def absorb (f : UInt64) (b : UInt8) : UInt64 := (f ^^^ b.toUInt64) * 0x100000001B3

/-- Takes the bytes of a text into a fingerprint. -/
def extend (f : UInt64) (s : String) : UInt64 :=
  (s.toList.flatMap String.utf8EncodeChar).foldl absorb f

/-- The fingerprint of texts in a row. -/
def ofTexts (texts : List String) : UInt64 := texts.foldl extend start

end Reconciliation.Fingerprint
