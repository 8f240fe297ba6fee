import CodeGraph.Session
import CodeGraph.Text.Escaped

/-!
# Token walks

A walk goes over the tokens recorded for a file and takes in those of the selected categories. It
can be followed step by step or listed as a whole.

## Main definitions

* `TokenWalk` — the tokens of a file with a selection
* `Lexeme` — a token with its place among all tokens of the file
* `TokenWalk.first?`, `TokenWalk.next?` — the walk step by step
* `TokenWalk.lexemes` — the whole walk
* `Session.tokenWalk` — the walk over a file
-/

namespace CodeGraph

/-- The tokens of a file with a selection. -/
structure TokenWalk where
  file : Entity
  /-- Every token recorded for the file. -/
  tokens : List Token
  selection : TokenSelection
  /-- The entities that tokens may name. -/
  catalog : Catalog

/-- A token with its place among all tokens of the file. -/
structure Lexeme where
  place : Nat
  token : Token
  deriving DecidableEq

namespace TokenWalk

/-- The first selected token of a list that starts at a place. -/
def seek (selection : TokenSelection) : Nat → List Token → Option Lexeme
  | _, [] => none
  | place, t :: ts =>
    if selection.admits t.category then some ⟨place, t⟩ else seek selection (place + 1) ts

/-- The first selected token. -/
def first? (w : TokenWalk) : Option Lexeme :=
  seek w.selection 0 w.tokens

/-- The selected token after a given one. -/
def next? (w : TokenWalk) (l : Lexeme) : Option Lexeme :=
  seek w.selection (l.place + 1) (w.tokens.drop (l.place + 1))

/-- The selected tokens of a list that starts at a place. -/
def lexemesFrom (selection : TokenSelection) : Nat → List Token → List Lexeme
  | _, [] => []
  | place, t :: ts =>
    if selection.admits t.category then ⟨place, t⟩ :: lexemesFrom selection (place + 1) ts
    else lexemesFrom selection (place + 1) ts

/-- The selected tokens in recorded order. -/
def lexemes (w : TokenWalk) : List Lexeme :=
  lexemesFrom w.selection 0 w.tokens

/-- The entity that a token names, if the selection resolves entities. -/
def entity? (w : TokenWalk) (l : Lexeme) : Option Entity :=
  if w.selection.entities then l.token.entity.bind w.catalog.entity? else none

end TokenWalk

/-- The walk over the tokens of a file. -/
def Session.tokenWalk (s : Session) (id : EntityId) (selection : TokenSelection) :
    Except Error TokenWalk := do
  let file ← s.queried id
  if file.kind.hasWord "file" then
    return ⟨file, (s.database.tokensOf file.id).getD [], selection, s.catalog⟩
  else throw (.notAFile file.longname file.kind.name)

/-! ### Descriptions -/

/-- The entity of a token as descriptions show it. -/
def describeEntity : Option EntityId → String
  | none => "None"
  | some id => s!"Some(EntityId({id.value.toNat}))"

/-- A token field by field. -/
def Token.describe (t : Token) : String :=
  "Token \x7b category: " ++ t.category.title ++
  ", text: " ++ String.ofList (Text.quoted '"' t.text.toList) ++
  s!", line_begin: {t.first.line.toNat}, column_begin: {t.first.column.toNat}" ++
  s!", line_end: {t.last.line.toNat}, column_end: {t.last.column.toNat}" ++
  ", entity: " ++ describeEntity t.entity ++ " \x7d"

/-- A lexeme field by field. -/
def Lexeme.describe (l : Lexeme) : String :=
  s!"Lexeme \x7b position: {l.place}, token: " ++ l.token.describe ++ " \x7d"

end CodeGraph
