import CodeGraph.Error
import CodeGraph.Text.Alphanumeric

/-!
# Kind filters

A filter selects kinds by their words. It is written as alternatives between commas; each is a list
of words that a kind must carry, or, after `~`, must not carry:

* `class ~unknown ~unresolved`
* `method, function`

The blank expression selects every kind.

## Main definitions

* `KindFilter` — the alternatives of a filter
* `KindFilter.parse` — the filter of an expression
* `KindFilter.selects` — the filter selects a kind
* `KindFilter.text` — the expression of a filter
-/

namespace CodeGraph

/-- Words that a kind must carry and words that it must not carry. -/
structure Alternative where
  includes : List String
  excludes : List String
  deriving DecidableEq, Repr

/-- A list of alternatives; the empty list selects every kind. -/
structure KindFilter where
  alternatives : List Alternative
  deriving DecidableEq, Repr

/-- A word of a filter expression, wanted or excluded. -/
structure FilterTerm where
  excluded : Bool
  word : String
  deriving DecidableEq, Repr

namespace FilterTerm

/-- The character may stand in a filter word. -/
def isWordChar (c : Char) : Bool :=
  Text.isAlphanumeric c || c == '_' || c == '-'

/-- The word of a term without its mark, in lower case. -/
def parseWord (filter : String) (word : List Char) : Except Error String :=
  if word.isEmpty then .error (.danglingTilde filter)
  else match word.find? (! isWordChar ·) with
    | some c => .error (.unexpectedCharacter c filter)
    | none => .ok (String.ofList (Text.lower word))

/-- The term of a text without blanks, where `filter` is the whole expression. -/
def parse (filter : String) : List Char → Except Error FilterTerm
  | '~' :: word => (parseWord filter word).map (⟨true, ·⟩)
  | word => (parseWord filter word).map (⟨false, ·⟩)

end FilterTerm

namespace Alternative

/-- The alternative of some terms. -/
def ofTerms (terms : List FilterTerm) : Alternative :=
  { includes := (terms.filter (! ·.excluded)).map (·.word)
    excludes := (terms.filter (·.excluded)).map (·.word) }

/-- The alternative of a text without commas, where `filter` is the whole expression. -/
def parse (filter : String) (piece : List Char) : Except Error Alternative :=
  if piece.all Text.isBlank then .error (.emptyAlternative filter)
  else ((Text.words piece).mapM (FilterTerm.parse filter)).map ofTerms

/-- The kind carries every wanted word and no excluded one. -/
def selects (a : Alternative) (k : Kind) : Bool :=
  a.includes.all k.hasWord && !a.excludes.any k.hasWord

/-- The wanted words, then the excluded ones with their mark. -/
def text (a : Alternative) : String :=
  " ".intercalate (a.includes ++ a.excludes.map ("~" ++ ·))

end Alternative

namespace KindFilter

/-- The filter that selects every kind. -/
def all : KindFilter :=
  ⟨[]⟩

/-- The filter has no alternatives and so selects every kind. -/
def isAll (f : KindFilter) : Bool :=
  f.alternatives.isEmpty

/-- The filter of an expression. -/
def parse (expr : String) : Except Error KindFilter :=
  if expr.toList.all Text.isBlank then .ok all
  else ((expr.toList.splitOnP (· == ',')).mapM (Alternative.parse expr)).map (⟨·⟩)

/-- The filter of an expression that may be absent; without one every kind is selected. -/
def parse? : Option String → Except Error KindFilter
  | none => .ok all
  | some expr => parse expr

/-- The filter selects the kind. -/
def selects (f : KindFilter) (k : Kind) : Bool :=
  f.isAll || f.alternatives.any (·.selects k)

/-- The expression of a filter, in lower case. -/
def text (f : KindFilter) : String :=
  ", ".intercalate (f.alternatives.map (·.text))

end KindFilter

end CodeGraph
