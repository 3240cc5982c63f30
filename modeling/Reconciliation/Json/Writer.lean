import Reconciliation.Json.Basic

/-!
# The compact text of a JSON value

No blanks, members in the order in which the object lists them, characters beyond ASCII as they
are. Inside a text only the quote, the backslash and the control characters below the blank are
escaped; five of these have a letter of their own (`Json.escape`).
-/

namespace Reconciliation.Json

/-- A digit of base sixteen, in lower case. -/
def hexDigit (n : Nat) : Char := Char.ofNat (if n < 10 then '0'.toNat + n else 'a'.toNat + (n - 10))

/-- A character as it stands inside a written text. -/
def escape (c : Char) : String :=
  if c = '"' then "\\\""
  else if c = '\\' then "\\\\"
  else if c = '\n' then "\\n"
  else if c = '\r' then "\\r"
  else if c = '\t' then "\\t"
  else if c = '\x08' then "\\b"
  else if c = '\x0c' then "\\f"
  else if c.toNat < 0x20 then
    "\\u00" ++ String.ofList [hexDigit (c.toNat / 16), hexDigit (c.toNat % 16)]
  else String.singleton c

/-- A text between quotes. -/
def quote (s : String) : String :=
  s.foldl (fun acc c => acc ++ escape c) "\"" ++ "\""

/-- The text of a number. -/
def numberText : Number → String
  | .int n => toString n
  | .float x => x.toText

mutual

/-- Appends the compact text of a value. -/
def write (acc : String) : Json → String
  | null => acc ++ "null"
  | bool true => acc ++ "true"
  | bool false => acc ++ "false"
  | num n => acc ++ numberText n
  | str s => acc ++ quote s
  | arr items => writeItems (acc ++ "[") true items ++ "]"
  | obj fields => writeFields (acc ++ "\x7b") true fields ++ "\x7d"

/-- Appends items, each but the first after a comma. -/
def writeItems (acc : String) (first : Bool) : List Json → String
  | [] => acc
  | j :: rest => writeItems (write (if first then acc else acc ++ ",") j) false rest

/-- Appends members, each but the first after a comma. -/
def writeFields (acc : String) (first : Bool) : List (String × Json) → String
  | [] => acc
  | (k, j) :: rest =>
    writeFields (write ((if first then acc else acc ++ ",") ++ quote k ++ ":") j) false rest

end

/-- The compact text of a value. -/
def compact (j : Json) : String := write "" j

end Reconciliation.Json
