import CodeGraph.Config
import CodeGraph.Database
import CodeGraph.Edge.Index

/-!
# Sessions

A session answers queries about one database. It catalogues the entities and indexes the references
once, when it starts. While the database is closed every query fails.

## Main definitions

* `Session.start` — the session over an open database
* `Session.select`, `Session.find`, `Session.require` — entities by kind and by name
* `Session.refs` — the references of an entity, all of them or one for each relation and far end
-/

namespace CodeGraph

/-- The filters of a traversal. An absent filter selects nothing. -/
structure Traversal where
  /-- The relation from a member to its owner. -/
  ownerRelation : KindFilter
  ownerKinds : KindFilter
  containment : Option KindFilter
  dependencyExclude : Option KindFilter
  deriving DecidableEq, Repr

namespace Traversal

/-- The relation from a member to its owner. -/
def ownerRelationText : String :=
  "definein"

/-- The filter of an expression, absent for the blank one. -/
def optional (expr : String) : Except Error (Option KindFilter) := do
  let f ← KindFilter.parse expr
  return if f.isAll then none else some f

/-- The filters of the settings. -/
def ofConfig (c : GraphConfig) : Except Error Traversal := do
  let ownerRelation ← KindFilter.parse ownerRelationText
  let ownerKinds ← KindFilter.parse c.ownerKinds
  let containment ← optional c.containment
  let dependencyExclude ← optional c.dependencyExclude
  return { ownerRelation, ownerKinds, containment, dependencyExclude }

end Traversal

/-- A database with what its queries need. -/
structure Session where
  database : Database
  traversal : Traversal
  catalog : Catalog
  index : EdgeIndex

/-- The first element of each key, where the elements whose key is in `seen` are left out. -/
def firstOfKey {α κ : Type} [DecidableEq κ] (key : α → κ) : List κ → List α → List α
  | _, [] => []
  | seen, x :: xs =>
    if key x ∈ seen then firstOfKey key seen xs
    else x :: firstOfKey key (key x :: seen) xs

namespace Session

/-- The session over an open database. -/
def start (db : Database) (config : Config) : Except Error Session := do
  if !db.isOpen then throw .closed
  let traversal ← Traversal.ofConfig config.graph
  let catalog ← Catalog.ofEntities db.entities
  let index ← EdgeIndex.ofReferences catalog db.references
  return { database := db, traversal, catalog, index }

/-- The session after its database has been closed. -/
def close (s : Session) : Session :=
  { s with database := s.database.close }

/-- The session after its database has been opened again. -/
def reopen (s : Session) : Session :=
  { s with database := s.database.reopen }

/-- The database is open. -/
def ensureOpen (s : Session) : Except Error Unit :=
  if s.database.isOpen then .ok () else .error .closed

/-- The entity with a number, which must be stored. -/
def known (s : Session) (id : EntityId) : Except Error Entity :=
  match s.catalog.entity? id with
  | some e => .ok e
  | none => .error (.unknownEntity id)

/-- The entity with a number in an open database. -/
def queried (s : Session) (id : EntityId) : Except Error Entity := do
  s.ensureOpen
  s.known id

/-! ### Entities -/

/-- The entities of the selected kinds, by ascending number. -/
def selectBy (s : Session) (f : KindFilter) : Except Error (List Entity) := do
  s.ensureOpen
  return s.catalog.select f

/-- The entities whose kind an expression selects, by ascending number. -/
def select (s : Session) (filter : String) : Except Error (List Entity) := do
  s.selectBy (← KindFilter.parse filter)

/-- The name is not empty and the database is open, and the filter parses. -/
def nameFilter (s : Session) (name : String) (filter : Option String) :
    Except Error KindFilter := do
  s.ensureOpen
  if name.isEmpty then throw .emptyName
  KindFilter.parse? filter

/-- The first entity with this short name and a selected kind. -/
def find (s : Session) (name : String) (filter : Option String) :
    Except Error (Option Entity) := do
  return s.catalog.find? name (← s.nameFilter name filter)

/-- The first entity with this long name and a selected kind. -/
def findLongname (s : Session) (longname : String) (filter : Option String) :
    Except Error (Option Entity) := do
  return s.catalog.findLongname? longname (← s.nameFilter longname filter)

/-- The first entity with this short name and a selected kind, which must exist. -/
def require (s : Session) (name : String) (filter : Option String) (what : String) :
    Except Error Entity := do
  match ← s.find name filter with
  | some e => return e
  | none => throw (.notFound what name)

/-! ### References -/

/-- What tells two references of an entity apart when each is wanted once: the relation and the far
end. -/
def pairing (e : Edge) : String × EntityId :=
  (e.kind.name, e.far.id)

/-- By ascending number of the far end, then by relation. -/
def byFarEnd (a b : Edge) : Bool :=
  (compareLex (compareOn (·.far.id)) (compareOn (·.kind.name)) a b).isLE

/-- The edges of an entity whose relation and far end are selected. -/
def selectedEdges (s : Session) (id : EntityId) (kinds entityKinds : KindFilter) : List Edge :=
  (s.index.leaving id).filter fun e => kinds.selects e.kind && entityKinds.selects e.far.kind

/-- The references of an entity whose relation and far end are selected. Each is listed in order of
location; or, if `unique`, the first for each relation and far end, by far end. -/
def refsBy (s : Session) (id : EntityId) (kinds entityKinds : KindFilter) (unique : Bool) :
    Except Error (List Edge) := do
  let e ← s.queried id
  let found := s.selectedEdges e.id kinds entityKinds
  return if unique then (firstOfKey pairing [] found).mergeSort byFarEnd else found

/-- The references of an entity, by the expressions of the two filters. -/
def refs (s : Session) (id : EntityId) (kinds entityKinds : Option String) (unique : Bool) :
    Except Error (List Edge) := do
  let kinds ← KindFilter.parse? kinds
  let entityKinds ← KindFilter.parse? entityKinds
  s.refsBy id kinds entityKinds unique

end Session

end CodeGraph
