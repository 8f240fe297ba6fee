import CodeGraph.Entity
import CodeGraph.Position

/-!
# Tokens

A database may record the tokens of a file: their category, text and extent, and the entity that a
token names.

## Main definitions

* `TokenCategory` — the eleven lexical categories
* `Token.starting` — the token of a text at a position
* `TokenSelection` — which categories a walk over the tokens takes in
-/

namespace CodeGraph

/-- The lexical category of a token. -/
inductive TokenCategory where
  | comment
  | identifier
  | keyword
  | literal
  | newline
  | operator
  | preprocessor
  | punctuation
  | string
  | whitespace
  | other
  deriving DecidableEq, Repr

namespace TokenCategory

/-- The categories in the order in which a snapshot numbers them. -/
def all : List TokenCategory :=
  [comment, identifier, keyword, literal, newline, operator, preprocessor, punctuation, string,
    whitespace, other]

/-- The category as listings show it. -/
def title : TokenCategory → String
  | comment => "Comment"
  | identifier => "Identifier"
  | keyword => "Keyword"
  | literal => "Literal"
  | newline => "Newline"
  | operator => "Operator"
  | preprocessor => "Preprocessor"
  | punctuation => "Punctuation"
  | string => "String"
  | whitespace => "Whitespace"
  | other => "Other"

/-- The category as snapshots spell it. -/
def name : TokenCategory → String
  | comment => "comment"
  | identifier => "identifier"
  | keyword => "keyword"
  | literal => "literal"
  | newline => "newline"
  | operator => "operator"
  | preprocessor => "preprocessor"
  | punctuation => "punctuation"
  | string => "string"
  | whitespace => "whitespace"
  | other => "other"

/-- The category with a given spelling. -/
def ofName? (text : String) : Option TokenCategory :=
  all.find? (·.name == text)

/-- White space and line breaks. -/
def isBlank : TokenCategory → Bool
  | whitespace | newline => true
  | _ => false

end TokenCategory

/-- A token of a file with its first and last position. -/
structure Token where
  category : TokenCategory
  text : String
  first : Position
  last : Position
  /-- The entity that the token names. -/
  entity : Option EntityId
  deriving DecidableEq

/-- The token of `text` at `first`. -/
def Token.starting (category : TokenCategory) (text : String) (first : Position)
    (entity : Option EntityId) : Token :=
  ⟨category, text, first, first.ofLast text.toList, entity⟩

/-- Which tokens a walk takes in, and whether it resolves the entities that they name. -/
structure TokenSelection where
  comments : Bool := true
  /-- White space and line breaks. -/
  whitespace : Bool := true
  preprocessor : Bool := true
  /-- Resolve the entity that a token names. -/
  entities : Bool := true
  deriving DecidableEq, Repr

/-- The selection takes in tokens of the category. -/
def TokenSelection.admits (s : TokenSelection) : TokenCategory → Bool
  | .comment => s.comments
  | .whitespace | .newline => s.whitespace
  | .preprocessor => s.preprocessor
  | _ => true

end CodeGraph
