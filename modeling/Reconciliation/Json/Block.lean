import Reconciliation.Json.Writer

/-!
# Block text

JSON values as YAML documents in block style. Objects and lists take a line per member or item, with
what belongs to a member indented below it; a list under a member is not indented. Only empty
objects and lists are written inline.

* `Json.TextStyle.of` -- how a text is written: as it stands if it reads back as the same text, over
  several lines if it has several, else between quotes;
* `Json.Layout` -- the lines of a value before they are placed under a member or an item;
* `Json.block` -- the document.
-/

namespace Reconciliation.Json

/-! ## 1. Texts -/

/-- The ways to write a text. -/
inductive TextStyle where
  /-- As it stands. -/
  | plain
  /-- Between single quotes, which are doubled inside. -/
  | quoted
  /-- Between double quotes, with escapes. -/
  | escaped
  /-- Line by line. -/
  | literal
deriving DecidableEq

namespace TextStyle

/-- The words that other readers take for truth values or for null. -/
def reserved : List String :=
  ["", "~", "null", "nil", "true", "false", "yes", "no", "on", "off", "y", "n", ".inf", ".nan"]

/-- Whether a text may be taken for a number: it begins like one, and holds nothing else. -/
def isNumeric (cs : List Char) : Bool :=
  (cs.dropWhile fun c => c == '+' || c == '-' || c == '.').head?.any Char.isDigit &&
    cs.all fun c => c.isAlphanum || c == '+' || c == '-' || c == '.' || c == '_'

/-- The marks that cannot begin a plain text. -/
def leading : List Char :=
  ['#', ',', '[', ']', '\x7b', '\x7d', '&', '*', '!', '|', '>', '\x27', '"', '%', '@', '\x60']

/-- Whether a text begins with a mark of the format; three of them count only before a blank. -/
def beginsWithMark : List Char → Bool
  | [] => false
  | c :: rest =>
    leading.contains c ||
      ((c == '-' || c == '?' || c == ':') && (rest.isEmpty || rest.head? = some ' ')) ||
      (c :: rest).take 3 = ['-', '-', '-'] || (c :: rest).take 3 = ['.', '.', '.']

/-- Whether a colon before a blank, or a blank before a number sign, stands within the text. -/
def hasMark : List Char → Bool
  | ':' :: ' ' :: _ | [':'] | ' ' :: '#' :: _ => true
  | _ :: rest => hasMark rest
  | [] => false

/-- Whether the text begins or ends with a blank or a line feed. -/
def hasOuterBlank (cs : List Char) : Bool :=
  (cs.head?.any fun c => c == ' ' || c == '\n') || (cs.getLast?.any fun c => c == ' ' || c == '\n')

/-- How a text is written. -/
def of (s : String) : TextStyle :=
  let cs := s.toList
  if cs.any fun c => c.toNat < 0x20 && c != '\n' then escaped
  else if cs.contains '\n' then if hasOuterBlank cs then escaped else literal
  else if reserved.contains (s.map Char.toLower) || isNumeric cs || beginsWithMark cs ||
      hasMark cs || hasOuterBlank cs then quoted
  else plain

end TextStyle

/-! ## 2. Layout -/

/-- The lines of a value. -/
inductive Layout where
  /-- A value on the line of its member or item. -/
  | inline (text : String)
  /-- A text line by line. -/
  | literal (lines : List String)
  /-- The lines of an object. -/
  | mapping (lines : List String)
  /-- The lines of a list. -/
  | sequence (lines : List String)

/-- A line moved to the right; empty lines stay empty. -/
def indented (line : String) : String := if line.isEmpty then line else "  " ++ line

/-- The layout of a text. -/
def textLayout (s : String) : Layout :=
  match TextStyle.of s with
  | .plain => .inline s
  | .quoted => .inline ("'" ++ s.replace "'" "''" ++ "'")
  | .escaped => .inline (quote s)
  | .literal => .literal (s.splitOn "\n")

/-- The text of a key, which takes one line. -/
def keyText (key : String) : String :=
  match textLayout key with
  | .inline text => text
  | _ => quote key

namespace Layout

/-- The lines of a member. -/
def underKey (key : String) : Layout → List String
  | inline text => [keyText key ++ ": " ++ text]
  | literal lines => (keyText key ++ ": |-") :: lines.map indented
  | mapping lines => (keyText key ++ ":") :: lines.map indented
  | sequence lines => (keyText key ++ ":") :: lines

/-- The lines of an item: what follows the first line is moved below the text of the first. -/
def afterDash : Layout → List String
  | inline text => ["- " ++ text]
  | literal lines => "- |-" :: lines.map indented
  | mapping lines | sequence lines =>
    match lines with
    | [] => []
    | first :: rest => ("- " ++ first) :: rest.map indented

/-- The lines of a whole document. -/
def lines : Layout → List String
  | inline text => [text]
  | literal lines => "|-" :: lines.map indented
  | mapping lines | sequence lines => lines

end Layout

mutual

/-- The layout of a value. -/
def layout : Json → Layout
  | null => .inline "null"
  | bool b => .inline (if b then "true" else "false")
  | num n => .inline (numberText n)
  | str s => textLayout s
  | arr [] => .inline "[]"
  | arr (j :: rest) => .sequence (itemLines (j :: rest))
  | obj [] => .inline "\x7b\x7d"
  | obj (f :: rest) => .mapping (memberLines (f :: rest))

/-- The lines of items. -/
def itemLines : List Json → List String
  | [] => []
  | j :: rest => (layout j).afterDash ++ itemLines rest

/-- The lines of members. -/
def memberLines : List (String × Json) → List String
  | [] => []
  | (key, j) :: rest => (layout j).underKey key ++ memberLines rest

end

/-- The document of a value: its lines, each ended by a line feed. -/
def block (j : Json) : String := String.join (j.layout.lines.map (· ++ "\n"))

end Reconciliation.Json
