import Reconciliation.Digits
import Reconciliation.Text.Utf8

/-!
# Query strings

The parameters at the end of an address, as names and values.

* `Query.encode` -- the parameters as they are written behind a question mark;
* `Query.decode` -- the parameters that a query string names: an ampersand parts them, the first
  equals sign ends a name, a plus sign is a blank, and `%` with two digits of base sixteen a byte.
-/

namespace Reconciliation.Query

/-! ## 1. Writing -/

/-- A digit of base sixteen. -/
def hexDigit (n : Nat) : Char := (Nat.digitChar n).toUpper

/-- How a byte is written: letters, digits and four marks as they are, a blank as a plus sign, the
rest by number. -/
def encodeByte (b : UInt8) : List Char :=
  let c := Char.ofNat b.toNat
  if c.isAlphanum || ['*', '-', '.', '_'].contains c then [c]
  else if c = ' ' then ['+']
  else ['%', hexDigit (b.toNat / 16), hexDigit (b.toNat % 16)]

/-- How a name or a value is written. -/
def encodeText (s : String) : String :=
  String.ofList (s.toList.flatMap fun c => (String.utf8EncodeChar c).flatMap encodeByte)

/-- The parameters, each behind an ampersand. -/
def encode (parameters : List (String × String)) : String :=
  String.join (parameters.map fun (name, value) =>
    "&" ++ encodeText name ++ "=" ++ encodeText value)

/-! ## 2. Reading -/

/-- The bytes that the characters stand for. -/
def bytes : List Char → List UInt8
  | [] => []
  | '%' :: a :: b :: rest =>
    match Digits.hexValue? a, Digits.hexValue? b with
    | some x, some y => UInt8.ofNat (16 * x + y) :: bytes rest
    | _, _ => 0x25 :: bytes (a :: b :: rest)
  | '+' :: rest => 0x20 :: bytes rest
  | c :: rest => String.utf8EncodeChar c ++ bytes rest

/-- The name or value that the characters stand for. -/
def decodeText (cs : List Char) : String := String.ofList (Utf8.decode (bytes cs))

/-- A name with its value, which is empty where there is no equals sign. -/
def parameter (cs : List Char) : String × String :=
  (decodeText (cs.takeWhile (· != '=')), decodeText ((cs.dropWhile (· != '=')).drop 1))

/-- The parameters of a query string. -/
def decode (query : String) : List (String × String) :=
  ((query.toList.splitOn '&').filter (!·.isEmpty)).map parameter

end Reconciliation.Query
