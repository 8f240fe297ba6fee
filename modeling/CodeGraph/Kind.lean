import CodeGraph.Text.Blank
import CodeGraph.Text.LowerCase

/-!
# Kinds

A kind classifies an entity or a relation by the words of its name: `Public Method` is a more
specific kind than `Method`. Words are compared in lower case. A relation kind has an inverse, the
name of the same relation seen from its other end.

## Main definitions

* `Kind` — a name with its lower-case words
* `Kind.category` — the least specific word
* `Kind.hasWord` — the kind carries a word
* `Kind.inverse` — the relation seen from the other end
-/

namespace CodeGraph

/-- A name with its lower-case words. -/
structure Kind where
  name : String
  words : List String
  words_eq : words = (Text.words name.toList).map fun w => String.ofList (Text.lower w)

namespace Kind

/-- The kind of a name. -/
def ofName (name : String) : Kind :=
  ⟨name, (Text.words name.toList).map fun w => String.ofList (Text.lower w), rfl⟩

/-- A kind is determined by its name. -/
@[ext] theorem ext {k l : Kind} (h : k.name = l.name) : k = l := by
  obtain ⟨n, w, hw⟩ := k
  obtain ⟨m, v, hv⟩ := l
  subst hw hv
  cases h
  rfl

instance : DecidableEq Kind := fun k l =>
  decidable_of_iff (k.name = l.name) ⟨ext, fun h => h ▸ rfl⟩

/-- The last word, empty for a name without words. -/
def category (k : Kind) : String :=
  k.words.getLastD ""

/-- The kind carries the lower-case word `w`. -/
def hasWord (k : Kind) (w : String) : Bool :=
  k.words.contains w

end Kind

/-- The verbs that a relation name is searched for. Its other words are qualifiers. -/
def relationVerbs : List String :=
  ["define", "declare", "contain", "call", "use", "set", "modify", "create", "extend",
    "implement", "include", "import", "typed", "throw", "catch", "override", "cast", "couple",
    "inherit", "init", "deref", "alias", "friend"]

/-- The ending of a verb in the name of the inverse relation: containment takes `in`, every other
relation `by`. -/
def inverseEnding (verb : String) : String :=
  if ["define", "declare", "contain"].contains verb then "in" else "by"

namespace Kind

/-- The position of the word that takes the inverse ending: the first relation verb, else the last
word. -/
def verbIndex (k : Kind) : Nat :=
  (k.words.findIdx? relationVerbs.contains).getD (k.words.length - 1)

/-- The name of the inverse relation: the words of the name, the verb with its ending. -/
def inverseName (k : Kind) : String :=
  let place (i : Nat) (part : List Char) : String :=
    if i = k.verbIndex then String.ofList part ++ inverseEnding (k.words.getD i "")
    else String.ofList part
  " ".intercalate ((Text.words k.name.toList).mapIdx place)

/-- The relation seen from the other end. A name without words is its own inverse. -/
def inverse (k : Kind) : Kind :=
  if k.words.isEmpty then k else ofName k.inverseName

end Kind

end CodeGraph
