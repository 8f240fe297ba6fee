import CodeGraph.Listing.Entities
import CodeGraph.TokenWalk

/-!
# Listings of tokens

A listing of tokens leaves out white space and line breaks, which do not count against its limit.
-/

namespace CodeGraph.Listing

/-- The least width of the category of a token. -/
def categoryWidth : Nat :=
  12

/-- A text with spaces after it, up to a width. -/
def padded (width : Nat) (text : String) : String :=
  text ++ String.ofList (List.replicate (width - text.length) ' ')

/-- A token with its place, its category, its quoted text and the entity that it names. -/
def tokenLine (w : TokenWalk) (l : Lexeme) : String :=
  let t := l.token
  let target := match w.entity? l with
    | some e => " -> " ++ e.longname
    | none => ""
  "  " ++ numeral t.first.line ++ ":" ++ numeral t.first.column ++ " " ++
    padded categoryWidth t.category.title ++ " " ++
    String.ofList (Text.quoted '"' t.text.toList) ++ target

/-- The tokens of a walk that a listing shows. -/
def shownLexemes (w : TokenWalk) (limit : Nat) : List Lexeme :=
  (w.lexemes.filter fun l => !l.token.category.isBlank).take limit

/-- The first tokens of a file that are not blank. -/
def tokens (s : Session) (selection : TokenSelection) (file : String) (limit : Nat) : Listing :=
  query (s.require file (some "file") "file") fun f =>
    query (s.tokenWalk f.id selection) fun w =>
      ofLines (s!"=== Tokens of {file} (first {limit}) ===" ::
        (shownLexemes w limit).map (tokenLine w))

end CodeGraph.Listing
