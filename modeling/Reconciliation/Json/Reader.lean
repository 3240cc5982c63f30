import Reconciliation.Json.Raw

/-!
# Reading JSON text

* `RawJson.ofText?` -- takes a text apart that is exactly one value between blanks;
* `Json.read?` -- the value itself.

A number without fraction and exponent is an integer when it lies between the least signed and the
greatest unsigned 64-bit integer and is not `-0`; any other number is a float. Three things follow
the grammar and name no value: a number beyond the finite floats, a text with half a character, and
a container inside 127 others.
-/

namespace Reconciliation

namespace Json

/-! ## 1. Characters -/

/-- The four blanks of the grammar. -/
def isBlank (c : Char) : Bool := c = ' ' || c = '\n' || c = '\t' || c = '\r'

/-- Skips blanks. -/
def skipBlanks (cs : List Char) : List Char := cs.dropWhile isBlank

/-! ## 2. Texts -/

/-- A piece of a text: a character, or a code unit given by four hexadecimal digits. -/
inductive TextPiece where
  | char (c : Char)
  | unit (n : Nat)

/-- The code unit that four hexadecimal digits name. -/
def unit? (a b c d : Char) : Option Nat := do
  let a ← Digits.hexValue? a
  let b ← Digits.hexValue? b
  let c ← Digits.hexValue? c
  let d ← Digits.hexValue? d
  some (((a * 16 + b) * 16 + c) * 16 + d)

/-- The character that a letter after a backslash stands for. -/
def escaped? : Char → Option Char
  | '"' => some '"'
  | '\\' => some '\\'
  | '/' => some '/'
  | 'b' => some '\x08'
  | 'f' => some '\x0c'
  | 'n' => some '\n'
  | 'r' => some '\r'
  | 't' => some '\t'
  | _ => none

/-- Reads the rest of a text after its opening quote; control characters are not allowed. The first
argument bounds the steps. -/
def readPieces : Nat → List TextPiece → List Char → Option (List TextPiece × List Char)
  | 0, _, _ => none
  | _ + 1, acc, '"' :: rest => some (acc.reverse, rest)
  | n + 1, acc, '\\' :: 'u' :: a :: b :: c :: d :: rest =>
    (unit? a b c d).bind fun unit => readPieces n (.unit unit :: acc) rest
  | n + 1, acc, '\\' :: c :: rest => (escaped? c).bind fun c => readPieces n (.char c :: acc) rest
  | n + 1, acc, c :: rest => if c.toNat < 0x20 then none else readPieces n (.char c :: acc) rest
  | _ + 1, _, [] => none

/-- The characters that the pieces spell. One outside the basic plane takes two units, the first
from the high and the second from the low half of the surrogates; neither stands alone. -/
def spelled? : List TextPiece → Option (List Char)
  | [] => some []
  | .char c :: rest => (spelled? rest).map (c :: ·)
  | .unit unit :: rest =>
    if unit < 0xD800 ∨ 0xE000 ≤ unit then (spelled? rest).map (Char.ofNat unit :: ·)
    else
      match rest with
      | .unit low :: rest =>
        if unit < 0xDC00 ∧ 0xDC00 ≤ low ∧ low < 0xE000 then
          (spelled? rest).map
            (Char.ofNat (0x10000 + (unit - 0xD800) * 0x400 + (low - 0xDC00)) :: ·)
        else none
      | _ => none

/-- Reads the rest of a text after its opening quote, and the text itself if the pieces spell
one. -/
def readText (n : Nat) (cs : List Char) : Option (Option String × List Char) :=
  (readPieces n [] cs).map fun (pieces, rest) =>
    ((spelled? pieces).map String.ofList, rest)

/-! ## 3. Numbers -/

/-- The fraction digits after a point, if there is a point. -/
def readFraction : List Char → Option (List Char × List Char)
  | '.' :: rest =>
    let digits := rest.takeWhile Char.isDigit
    if digits.isEmpty then none else some (digits, rest.dropWhile Char.isDigit)
  | rest => some ([], rest)

/-- The exponent after its letter, if there is one. -/
def readExponent : List Char → Option (Option Int × List Char)
  | c :: rest =>
    if c = 'e' ∨ c = 'E' then
      let (sign, rest) := match rest with
        | '-' :: rest => ((-1 : Int), rest)
        | '+' :: rest => (1, rest)
        | rest => (1, rest)
      let digits := rest.takeWhile Char.isDigit
      if digits.isEmpty then none
      else some (some (sign * Digits.value digits), rest.dropWhile Char.isDigit)
    else some (none, c :: rest)
  | [] => some (none, [])

/-- The float that is written with a sign, digits before and after the point, and an exponent. Only
digits that fit 64 bits count. A digit before the point that has no place moves the point; one after
it is dropped. -/
def float? (negative : Bool) (whole fraction : List Char) (exponent : Int) : Option Binary64 :=
  let (digits, beyond) := Digits.readBelow UInt64.size 0 whole
  let (digits, dropped) := Digits.readBelow UInt64.size digits fraction
  Binary64.ofDecimal? negative digits (exponent + beyond.length + dropped.length - fraction.length)

/-- The number that is written with a sign, digits before and after the point, and perhaps an
exponent. -/
def number? (negative : Bool) (whole fraction : List Char) (exponent : Option Int) :
    Option Number :=
  let digits := Digits.value whole
  let value : Int := if negative then -digits else digits
  if fraction.isEmpty && exponent.isNone && !(negative && digits == 0) &&
      decide (Int64.minValue.toInt ≤ value) && decide (value < UInt64.size) then
    some (.int value)
  else (float? negative whole fraction (exponent.getD 0)).map .float

/-- Reads a number; an integer part has no leading zero. -/
def readNumber (cs : List Char) : Option (RawJson × List Char) := do
  let (negative, cs) := match cs with
    | '-' :: rest => (true, rest)
    | rest => (false, rest)
  let whole := cs.takeWhile Char.isDigit
  if whole.isEmpty || (whole.head? = some '0' && 1 < whole.length) then none
  let (fraction, cs) ← readFraction (cs.dropWhile Char.isDigit)
  let (exponent, cs) ← readExponent cs
  some ((number? negative whole fraction exponent).elim .unreadable .num, cs)

/-! ## 4. Values -/

/-- A container, given how many there are from the outermost one to it. -/
def nested (depth : Nat) (container : RawJson) : RawJson :=
  if depth ≤ 127 then container else .unreadable

/-- The object with the members, unless a key is no text. -/
def objectOf (members : List (Option String × RawJson)) : RawJson :=
  let keyed := members.mapM fun (key, r) => key.map fun k => (k, r)
  keyed.elim .unreadable .obj

mutual

/-- Reads a value at the start of the characters inside so many containers; the first argument
bounds the steps. -/
def readValue : Nat → Nat → List Char → Option (RawJson × List Char)
  | 0, _, _ => none
  | n + 1, depth, cs =>
    match skipBlanks cs with
    | 'n' :: 'u' :: 'l' :: 'l' :: rest => some (.null, rest)
    | 't' :: 'r' :: 'u' :: 'e' :: rest => some (.bool true, rest)
    | 'f' :: 'a' :: 'l' :: 's' :: 'e' :: rest => some (.bool false, rest)
    | '"' :: rest => (readText n rest).map fun (s, rest) => (s.elim .unreadable .str, rest)
    | '[' :: rest =>
      match skipBlanks rest with
      | ']' :: rest => some (nested (depth + 1) (.arr []), rest)
      | rest =>
        (readItems n (depth + 1) rest).map fun (items, rest) =>
          (nested (depth + 1) (.arr items), rest)
    | '\x7b' :: rest =>
      match skipBlanks rest with
      | '\x7d' :: rest => some (nested (depth + 1) (.obj []), rest)
      | rest =>
        (readMembers n (depth + 1) rest).map fun (members, rest) =>
          (nested (depth + 1) (objectOf members), rest)
    | rest => readNumber rest

/-- Reads items up to the closing bracket. -/
def readItems : Nat → Nat → List Char → Option (List RawJson × List Char)
  | 0, _, _ => none
  | n + 1, depth, cs => do
    let (r, rest) ← readValue n depth cs
    match skipBlanks rest with
    | ',' :: rest =>
      let (items, rest) ← readItems n depth rest
      some (r :: items, rest)
    | ']' :: rest => some ([r], rest)
    | _ => none

/-- Reads members up to the closing brace. -/
def readMembers : Nat → Nat → List Char → Option (List (Option String × RawJson) × List Char)
  | 0, _, _ => none
  | n + 1, depth, cs =>
    match skipBlanks cs with
    | '"' :: rest => do
      let (key, rest) ← readText n rest
      match skipBlanks rest with
      | ':' :: rest =>
        let (r, rest) ← readValue n depth rest
        match skipBlanks rest with
        | ',' :: rest =>
          let (members, rest) ← readMembers n depth rest
          some ((key, r) :: members, rest)
        | '\x7d' :: rest => some ([(key, r)], rest)
        | _ => none
      | _ => none
    | _ => none

end

end Json

/-- The parts of a text that is one value between blanks. -/
def RawJson.ofText? (text : String) : Option RawJson :=
  let cs := text.toList
  match Json.readValue (2 * cs.length + 2) 0 cs with
  | some (r, rest) => if (Json.skipBlanks rest).isEmpty then some r else none
  | none => none

/-- The value of a text. -/
def Json.read? (text : String) : Option Json := (RawJson.ofText? text).bind (·.value?)

end Reconciliation
