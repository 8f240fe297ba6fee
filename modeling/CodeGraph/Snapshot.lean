import CodeGraph.Database
import CodeGraph.KindFilter
import Std.Data.TreeSet

/-!
# Snapshots

A snapshot is the storable content of a database. It becomes a database once it is found sound:
entity numbers are distinct, and every number in a reference or a token names a stored entity. It
can also be served as it stands, to a session that checks what it needs by itself.

## Main definitions

* `Snapshot` — the storable content
* `Snapshot.toDatabase` — the database of a sound snapshot, or the first fault
* `Snapshot.serve` — the database of any snapshot, nothing checked
* `Snapshot.empty` and the `Snapshot.with…` functions — assembling a snapshot part by part
-/

namespace CodeGraph

/-- The tokens recorded for one file. -/
structure FileTokens where
  file : EntityId
  tokens : List Token
  deriving DecidableEq

/-- The storable content of a database. -/
structure Snapshot where
  name : String
  languages : List String
  /-- The filter that selects the kinds of unresolved entities. -/
  unresolved : String
  entities : List Entity
  references : List Reference
  lexemes : List FileTokens
  deriving DecidableEq

/-- A set of entity numbers. -/
abbrev IdSet : Type :=
  Std.TreeSet EntityId

namespace Snapshot

/-- The kinds taken for unresolved unless a snapshot says otherwise. -/
def defaultUnresolved : String :=
  "unresolved, unknown"

/-- The first number of a list that is in `seen` or stands earlier in the list. -/
def firstRepeat (seen : IdSet) : List EntityId → Option EntityId
  | [] => none
  | id :: ids => if seen.contains id then some id else firstRepeat (seen.insert id) ids

/-- The numbers that a reference holds, with the parts that they play, in order of their check. -/
def roles (r : Reference) : List (Role × EntityId) :=
  [(.source, r.source), (.target, r.target), (.file, r.file)]

/-- Every number in the references, from the reference numbered `record` on, is known. -/
def checkReferences (known : IdSet) : Nat → List Reference → Except Error Unit
  | _, [] => .ok ()
  | record, r :: rs =>
    match (roles r).find? (! known.contains ·.2) with
    | some (role, id) => .error (.danglingReference role id record)
    | none => checkReferences known (record + 1) rs

/-- Every file with tokens is known and has one list, and its tokens name known entities. The files
in `seen` have had their list. -/
def checkLexemes (known seen : IdSet) : List FileTokens → Except Error Unit
  | [] => .ok ()
  | f :: fs =>
    if !known.contains f.file then .error (.tokensOfUnknownFile f.file)
    else match (f.tokens.filterMap (·.entity)).find? (! known.contains ·) with
      | some id => .error (.tokenOfUnknownEntity f.file id)
      | none =>
        if seen.contains f.file then .error (.tokensRecordedTwice f.file)
        else checkLexemes known (seen.insert f.file) fs

/-- The tokens recorded for a file: those of its first list. -/
def tokensOf (s : Snapshot) (file : EntityId) : Option (List Token) :=
  (s.lexemes.find? (·.file == file)).map (·.tokens)

/-- The database of a sound snapshot, or the first fault of the snapshot. -/
def toDatabase (s : Snapshot) : Except Error Database := do
  let unresolved ← KindFilter.parse s.unresolved
  if let some id := firstRepeat ∅ (s.entities.map (·.id)) then
    throw (.duplicateEntity id)
  let known : IdSet := Std.TreeSet.ofList (s.entities.map (·.id))
  checkReferences known 0 s.references
  checkLexemes known ∅ s.lexemes
  return {
    name := s.name
    languages := s.languages
    entities := s.entities
    references := s.references
    tokensOf := s.tokensOf
    isUnresolved := fun e => !unresolved.isAll && unresolved.selects e.kind
    isOpen := true }

/-- The database of a snapshot as it stands, in which no entity counts as unresolved. -/
def serve (s : Snapshot) : Database where
  name := s.name
  languages := s.languages
  entities := s.entities
  references := s.references
  tokensOf := s.tokensOf
  isUnresolved := fun _ => false
  isOpen := true

/-- A snapshot without content. -/
def empty (name : String) : Snapshot :=
  ⟨name, [], defaultUnresolved, [], [], []⟩

/-- The snapshot with a language added. -/
def withLanguage (s : Snapshot) (language : String) : Snapshot :=
  { s with languages := s.languages ++ [language] }

/-- The snapshot with another filter for unresolved kinds. -/
def withUnresolved (s : Snapshot) (filter : String) : Snapshot :=
  { s with unresolved := filter }

/-- The snapshot with an entity added. -/
def withEntity (s : Snapshot) (e : Entity) : Snapshot :=
  { s with entities := s.entities ++ [e] }

/-- The snapshot with a reference added. -/
def withReference (s : Snapshot) (r : Reference) : Snapshot :=
  { s with references := s.references ++ [r] }

/-- The snapshot with the tokens of a file added. -/
def withTokens (s : Snapshot) (f : FileTokens) : Snapshot :=
  { s with lexemes := s.lexemes ++ [f] }

end Snapshot

end CodeGraph
