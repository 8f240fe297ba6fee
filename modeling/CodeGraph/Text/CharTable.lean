/-!
# Character tables

A class of characters is given by the code-point ranges that make it up.

## Main definitions

* `Text.CharTable` — closed ranges of code points
* `Text.CharTable.contains` — membership of a character
-/

namespace CodeGraph.Text

/-- A class of characters as a list of closed code-point ranges. -/
structure CharTable where
  ranges : List (Nat × Nat)

/-- Some range of the table holds the character. -/
def CharTable.contains (t : CharTable) (c : Char) : Bool :=
  t.ranges.any fun r => r.1 ≤ c.toNat && c.toNat ≤ r.2

end CodeGraph.Text
