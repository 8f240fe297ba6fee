import CodeGraph.Text.CharTable

/-!
# Blanks and words

Kind names and filter expressions are cut into words at the characters with the Unicode property
`White_Space`. The zero-width space and the byte-order mark are not among them.

## Main definitions

* `Text.isBlank` — the character separates words
* `Text.words` — the maximal runs of other characters
* `Text.trim` — a text without the blanks at its ends
-/

namespace CodeGraph.Text

/-- The ranges of the property `White_Space`, ascending. -/
def blankRanges : CharTable :=
  ⟨[(0x9, 0xD), (0x20, 0x20), (0x85, 0x85), (0xA0, 0xA0), (0x1680, 0x1680), (0x2000, 0x200A),
    (0x2028, 0x2029), (0x202F, 0x202F), (0x205F, 0x205F), (0x3000, 0x3000)]⟩

/-- The character separates words. -/
def isBlank (c : Char) : Bool :=
  blankRanges.contains c

/-- The words of a text: its maximal runs of characters that are not blank. -/
def words (cs : List Char) : List (List Char) :=
  (cs.splitOnP isBlank).filter (! ·.isEmpty)

/-- A text without the blanks at its ends. -/
def trim (cs : List Char) : List Char :=
  ((cs.dropWhile isBlank).reverse.dropWhile isBlank).reverse

end CodeGraph.Text
