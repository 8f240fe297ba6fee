/-!
# Similarity of words

Two words are similar if most characters of each occur in the other at nearby places and in the same
order.

## Main definitions

* `Text.similarity` — how similar two words are, from 0 to 1
-/

namespace CodeGraph.Text

/-- How far apart the places of matching characters may be. -/
def matchRange (a b : List Char) : Nat :=
  max a.length b.length / 2 - 1

/-- The first place, from `place` on and below `bound`, that holds `c` and is not `taken`. -/
def freePlace? (c : Char) (taken : List Nat) (bound : Nat) : Nat → List Char → Option Nat
  | _, [] => none
  | place, d :: ds =>
    if bound ≤ place then none
    else if c == d && !taken.contains place then some place
    else freePlace? c taken bound (place + 1) ds

/-- For each character of a word, from its place on, the place in `b` that it is matched with. -/
def matching (b : List Char) (range : Nat) : List Nat → Nat → List Char → List (Option Nat)
  | _, _, [] => []
  | taken, place, c :: cs =>
    let least := place - range
    match freePlace? c taken (place + range + 1) least (b.drop least) with
    | some found => some found :: matching b range (found :: taken) (place + 1) cs
    | none => none :: matching b range taken (place + 1) cs

/-- How similar two words are: the mean of the share of matched characters in either word and the
share of the matched characters that stand in the same order. -/
def similarity (a b : List Char) : Float :=
  let found := matching b (matchRange a b) [] 0 a
  let fromA := (a.zip found).filterMap fun (c, place) => place.map fun _ => c
  let fromB := (b.zip (List.range b.length)).filterMap fun (c, place) =>
    if found.contains (some place) then some c else none
  let matched := fromA.length
  let moved := ((fromA.zip fromB).filter fun (c, d) => c != d).length / 2
  if matched = 0 then (if a.isEmpty && b.isEmpty then 1 else 0)
  else
    (matched.toFloat / a.length.toFloat + matched.toFloat / b.length.toFloat +
      (matched - moved).toFloat / matched.toFloat) / 3

end CodeGraph.Text
