import CodeGraph.Binary
import CodeGraph.Snapshot

/-!
# Snapshots in binary form

The parts of a snapshot are written one after the other in the order of their fields. Kinds are
written by their names. Bytes behind the snapshot are ignored.

## Main definitions

* `Snapshot.codec` — how a snapshot is written and read
* `Snapshot.toBinary`, `Snapshot.ofBinary` — the content of a file
-/

namespace CodeGraph

/-- The number of an entity. -/
def EntityId.codec : Codec EntityId :=
  Codec.word.map (⟨·⟩) (·.value)

/-- A kind, by its name. -/
def Kind.codec : Codec Kind :=
  Codec.text.map Kind.ofName (·.name)

/-- A line and a column. -/
def Position.codec : Codec Position :=
  (Codec.word.pair Codec.word).map (fun (line, column) => ⟨line, column⟩)
    fun p => (p.line, p.column)

/-- An entity, field by field. -/
def Entity.codec : Codec Entity :=
  (EntityId.codec.pair <| Codec.text.pair <| Codec.text.pair <| Kind.codec.pair <|
    Codec.list Codec.text).map
    (fun (id, name, longname, kind, types) => ⟨id, name, longname, kind, types⟩)
    fun e => (e.id, e.name, e.longname, e.kind, e.types)

/-- A reference, field by field. -/
def Reference.codec : Codec Reference :=
  (EntityId.codec.pair <| EntityId.codec.pair <| Kind.codec.pair <| EntityId.codec.pair
    Position.codec).map
    (fun (source, target, kind, file, position) => ⟨source, target, kind, file, position⟩)
    fun r => (r.source, r.target, r.kind, r.file, r.position)

/-- A token, field by field. -/
def Token.codec : Codec Token :=
  ((Codec.choice TokenCategory.all).pair <| Codec.text.pair <| Position.codec.pair <|
    Position.codec.pair <| Codec.option EntityId.codec).map
    (fun (category, text, first, last, entity) => ⟨category, text, first, last, entity⟩)
    fun t => (t.category, t.text, t.first, t.last, t.entity)

/-- The tokens of a file. -/
def FileTokens.codec : Codec FileTokens :=
  (EntityId.codec.pair (Codec.list Token.codec)).map (fun (file, tokens) => ⟨file, tokens⟩)
    fun f => (f.file, f.tokens)

namespace Snapshot

/-- A snapshot, field by field. -/
def codec : Codec Snapshot :=
  (Codec.text.pair <| (Codec.list Codec.text).pair <| Codec.text.pair <|
    (Codec.list Entity.codec).pair <| (Codec.list Reference.codec).pair
    (Codec.list FileTokens.codec)).map
    (fun (name, languages, unresolved, entities, references, lexemes) =>
      ⟨name, languages, unresolved, entities, references, lexemes⟩)
    fun s => (s.name, s.languages, s.unresolved, s.entities, s.references, s.lexemes)

/-- The binary form of a snapshot. -/
def toBinary (s : Snapshot) : Bytes :=
  codec.encode s

/-- The snapshot at the front of some bytes. -/
def ofBinary (bs : Bytes) : Except Codec.Fault Snapshot :=
  (codec.decode bs).map (·.1)

end Snapshot

end CodeGraph
