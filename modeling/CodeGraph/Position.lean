/-!
# Positions in a file

Lines and columns count from one. A line feed ends its line; every other character takes one
column.

## Main definitions

* `Position.next` — the position behind a character
* `Position.after` — the position behind a text
* `Position.ofLast` — the position of the last character of a text
-/

namespace CodeGraph

/-- A line or a column as reports and listings show it. -/
def numeral (n : UInt32) : String :=
  toString n.toNat

/-- A line and a column. -/
structure Position where
  line : UInt32
  column : UInt32
  deriving DecidableEq, Repr

namespace Position

/-- The position behind the character `c` at `p`. -/
def next (p : Position) (c : Char) : Position :=
  if c == '\n' then ⟨p.line + 1, 1⟩ else ⟨p.line, p.column + 1⟩

/-- The position behind a text that starts at `p`. -/
def after (p : Position) (cs : List Char) : Position :=
  cs.foldl next p

/-- The position of the last character of a text that starts at `p`, and `p` for the empty text. -/
def ofLast (p : Position) (cs : List Char) : Position :=
  p.after cs.dropLast

end Position

end CodeGraph
