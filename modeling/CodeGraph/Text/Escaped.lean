import CodeGraph.Text.Printable

/-!
# Escaped text

A listing shows a text between quotes, with an escape for every character that would not show as
itself. The quote around the text is escaped inside it; the other quote is not.

## Main definitions

* `Text.escapeChar` — one character as it stands between the given quotes
* `Text.quoted` — a whole text between quotes
-/

namespace CodeGraph.Text

/-- The lower-case hexadecimal digits of a number. -/
def hexDigits (n : Nat) : List Char :=
  Nat.toDigits 16 n

/-- The form of a character between the quotes `quote`. -/
def escapeChar (quote : Char) (c : Char) : List Char :=
  if c == '\x00' then ['\\', '0']
  else if c == '\t' then ['\\', 't']
  else if c == '\r' then ['\\', 'r']
  else if c == '\n' then ['\\', 'n']
  else if c == '\\' || c == quote then ['\\', c]
  else if isPrintable c then [c]
  else ['\\', 'u', '\x7b'] ++ hexDigits c.toNat ++ ['\x7d']

/-- A text between quotes. -/
def quoted (quote : Char) (cs : List Char) : List Char :=
  quote :: cs.flatMap (escapeChar quote) ++ [quote]

end CodeGraph.Text
