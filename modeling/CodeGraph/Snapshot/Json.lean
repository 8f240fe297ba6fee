import CodeGraph.Json.Parser
import CodeGraph.Json.Printer
import CodeGraph.Snapshot

/-!
# Snapshots in JSON

A snapshot is an object with its fields in order. Reading takes the fields in any order, or an array
of their values, and passes over unknown ones; lists and the filter for unresolved kinds may be
missing, and so may the entity of a token.

## Main definitions

* `Snapshot.toJson`, `Snapshot.ofJson?` — a snapshot as a value
-/

namespace CodeGraph

namespace Json

/-- The value of a field that must be given. -/
def required {α : Type} (read : Json → Option α) : Option Json → Option α
  | some v => read v
  | none => none

/-- The value of a field, or a default where none is given. -/
def defaulting {α : Type} (read : Json → Option α) (default : α) : Option Json → Option α
  | some v => read v
  | none => some default

/-- A number of 32 bits. -/
def ofWord (n : UInt32) : Json :=
  number (toString n.toNat)

/-- A text. -/
def ofString (s : String) : Json :=
  text (some s)

/-- A record with its fields in order. -/
def record (fields : List (String × Json)) : Json :=
  object (fields.map fun (key, v) => (some key, v))

end Json

open Json (required defaulting record)

/-- The number of an entity as a value. -/
def EntityId.toJson (id : EntityId) : Json :=
  Json.ofWord id.value

/-- The number of an entity. -/
def EntityId.ofJson? (v : Json) : Option EntityId :=
  v.word?.map (⟨·⟩)

/-- A kind by its name. -/
def Kind.ofJson? (v : Json) : Option Kind :=
  v.text?.map Kind.ofName

/-- An entity as a value. -/
def Entity.toJson (e : Entity) : Json :=
  record [("id", e.id.toJson), ("name", Json.ofString e.name),
    ("longname", Json.ofString e.longname), ("kind", Json.ofString e.kind.name),
    ("types", .array (e.types.map Json.ofString))]

/-- The entity of a value. -/
def Entity.ofJson? (v : Json) : Option Entity := do
  match ← v.slots? ["id", "name", "longname", "kind", "types"] with
  | [id, name, longname, kind, types] =>
    return {
      id := ← required EntityId.ofJson? id
      name := ← required Json.text? name
      longname := ← required Json.text? longname
      kind := ← required Kind.ofJson? kind
      types := ← defaulting (Json.list? Json.text?) [] types }
  | _ => none

/-- A reference as a value. -/
def Reference.toJson (r : Reference) : Json :=
  record [("source", r.source.toJson), ("target", r.target.toJson),
    ("kind", Json.ofString r.kind.name), ("file", r.file.toJson),
    ("line", Json.ofWord r.position.line), ("column", Json.ofWord r.position.column)]

/-- The reference of a value. -/
def Reference.ofJson? (v : Json) : Option Reference := do
  match ← v.slots? ["source", "target", "kind", "file", "line", "column"] with
  | [source, target, kind, file, line, column] =>
    return {
      source := ← required EntityId.ofJson? source
      target := ← required EntityId.ofJson? target
      kind := ← required Kind.ofJson? kind
      file := ← required EntityId.ofJson? file
      position := ⟨← required Json.word? line, ← required Json.word? column⟩ }
  | _ => none

/-- The category of a value: its name, or an object that holds nothing under that name. -/
def TokenCategory.ofJson? : Json → Option TokenCategory
  | .text (some s) => ofName? s
  | .object [(some s, .null)] => ofName? s
  | _ => none

/-- The entity of a token as a value. -/
def entityToJson : Option EntityId → Json
  | some id => id.toJson
  | none => .null

/-- The entity of a token. -/
def entityOfJson? : Json → Option (Option EntityId)
  | .null => some none
  | v => (EntityId.ofJson? v).map some

/-- A token as a value. -/
def Token.toJson (t : Token) : Json :=
  record [("category", Json.ofString t.category.name), ("text", Json.ofString t.text),
    ("line_begin", Json.ofWord t.first.line), ("column_begin", Json.ofWord t.first.column),
    ("line_end", Json.ofWord t.last.line), ("column_end", Json.ofWord t.last.column),
    ("entity", entityToJson t.entity)]

/-- The token of a value. -/
def Token.ofJson? (v : Json) : Option Token := do
  match ← v.slots? ["category", "text", "line_begin", "column_begin", "line_end", "column_end",
      "entity"] with
  | [category, text, lineBegin, columnBegin, lineEnd, columnEnd, entity] =>
    return {
      category := ← required TokenCategory.ofJson? category
      text := ← required Json.text? text
      first := ⟨← required Json.word? lineBegin, ← required Json.word? columnBegin⟩
      last := ⟨← required Json.word? lineEnd, ← required Json.word? columnEnd⟩
      entity := ← defaulting entityOfJson? none entity }
  | _ => none

/-- The tokens of a file as a value. -/
def FileTokens.toJson (f : FileTokens) : Json :=
  record [("file", f.file.toJson), ("tokens", .array (f.tokens.map (·.toJson)))]

/-- The tokens of a file. -/
def FileTokens.ofJson? (v : Json) : Option FileTokens := do
  match ← v.slots? ["file", "tokens"] with
  | [file, tokens] =>
    return {
      file := ← required EntityId.ofJson? file
      tokens := ← required (Json.list? Token.ofJson?) tokens }
  | _ => none

namespace Snapshot

/-- A snapshot as a value. -/
def toJson (s : Snapshot) : Json :=
  record [("name", Json.ofString s.name),
    ("languages", .array (s.languages.map Json.ofString)),
    ("unresolved", Json.ofString s.unresolved),
    ("entities", .array (s.entities.map (·.toJson))),
    ("references", .array (s.references.map (·.toJson))),
    ("lexemes", .array (s.lexemes.map (·.toJson)))]

/-- The snapshot of a value. -/
def ofJson? (v : Json) : Option Snapshot := do
  match ← v.slots? ["name", "languages", "unresolved", "entities", "references", "lexemes"] with
  | [name, languages, unresolved, entities, references, lexemes] =>
    return {
      name := ← required Json.text? name
      languages := ← defaulting (Json.list? Json.text?) [] languages
      unresolved := ← defaulting Json.text? defaultUnresolved unresolved
      entities := ← defaulting (Json.list? Entity.ofJson?) [] entities
      references := ← defaulting (Json.list? Reference.ofJson?) [] references
      lexemes := ← defaulting (Json.list? FileTokens.ofJson?) [] lexemes }
  | _ => none

end Snapshot

end CodeGraph
