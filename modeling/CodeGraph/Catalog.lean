import CodeGraph.KindFilter
import CodeGraph.Register

/-!
# Catalogues

A catalogue lists the entities of a database by ascending number and finds them by number, short
name or long name.

## Main definitions

* `Catalog.ofEntities` — the catalogue of entities with distinct numbers
* `Catalog.entity?` — the entity with a number
* `Catalog.select` — the entities of the selected kinds
* `Catalog.find?`, `Catalog.findLongname?` — the first entity with a name and a selected kind
-/

namespace CodeGraph

/-- The entities of a database by number and by name. -/
structure Catalog where
  /-- Every entity, by ascending number. -/
  entities : List Entity
  byId : Register EntityId Entity
  byName : Register String Entity
  byLongname : Register String Entity

namespace Catalog

/-- The lowest number first. -/
def inOrder (a b : Entity) : Bool :=
  (compare a.id b.id).isLE

/-- The first number that two neighbours of a list share. -/
def sharedId : List Entity → Option EntityId
  | a :: b :: es => if a.id = b.id then some a.id else sharedId (b :: es)
  | _ => none

/-- The catalogue of entities, unless two of them share a number. -/
def ofEntities (es : List Entity) : Except Error Catalog :=
  let ordered := es.mergeSort inOrder
  match sharedId ordered with
  | some id => .error (.duplicateEntity id)
  | none => .ok {
      entities := ordered
      byId := Register.ofList (·.id) ordered
      byName := Register.ofList (·.name) ordered
      byLongname := Register.ofList (·.longname) ordered }

/-- The number of entities. -/
def size (c : Catalog) : Nat :=
  c.entities.length

/-- The entity with a number. -/
def entity? (c : Catalog) (id : EntityId) : Option Entity :=
  (c.byId.filed id).head?

/-- The entities whose kind the filter selects, by ascending number. -/
def select (c : Catalog) (f : KindFilter) : List Entity :=
  c.entities.filter (f.selects ·.kind)

/-- The entity of lowest number with this short name and a selected kind. -/
def find? (c : Catalog) (name : String) (f : KindFilter) : Option Entity :=
  (c.byName.filed name).find? (f.selects ·.kind)

/-- The entity of lowest number with this long name and a selected kind. -/
def findLongname? (c : Catalog) (longname : String) (f : KindFilter) : Option Entity :=
  (c.byLongname.filed longname).find? (f.selects ·.kind)

end Catalog

end CodeGraph
