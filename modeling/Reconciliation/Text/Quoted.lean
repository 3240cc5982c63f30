import Reconciliation.Text.Glyphless

/-!
# Quoted text

A text of unknown origin inside a message: in quotes, on one line, with every character visible.

* `Quoted.escape` -- how one character stands between the quotes;
* `Quoted.encode` -- the text in its quotes.
-/

namespace Reconciliation.Quoted

/-- A character between the quotes: quotes and backslashes behind a backslash, the commonest control
characters by their letters, and any other character without a glyph by its code point in base
sixteen. -/
def escape (c : Char) : List Char :=
  match c with
  | '"' => ['\\', '"']
  | '\\' => ['\\', '\\']
  | '\n' => ['\\', 'n']
  | '\r' => ['\\', 'r']
  | '\t' => ['\\', 't']
  | '\x00' => ['\\', '0']
  | c =>
    if Glyphless.contains c then ['\\', 'u', '\x7b'] ++ Nat.toDigits 16 c.toNat ++ ['\x7d']
    else [c]

/-- The text in quotes. -/
def encode (s : String) : String := "\"" ++ String.ofList (s.toList.flatMap escape) ++ "\""

end Reconciliation.Quoted
