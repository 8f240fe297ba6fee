import CodeGraph.Session

/-!
# Ownership

A member is owned by the entity that defines it. An entity may be defined more than once; the first
place, in order of location, decides.

## Main definitions

* `Session.ownerEdge?` — the first edge to an owner of the selected kinds
* `Session.owner` — the same as a query
* `Session.ownerClass` — the owner of a configured kind
* `Session.parent` — the owner of any kind
-/

namespace CodeGraph.Session

/-- The first inverse edge, by location, that leads to an owner of a selected kind. -/
def ownerEdge? (s : Session) (id : EntityId) (f : KindFilter) : Option Edge :=
  (s.index.leaving id).find? fun e =>
    e.isInverse && s.traversal.ownerRelation.selects e.kind && f.selects e.far.kind

/-- The owner of an entity, of whatever kind. -/
def parent? (s : Session) (e : Entity) : Option Entity :=
  (s.ownerEdge? e.id KindFilter.all).map (·.far)

/-- The reference through which an owner of a selected kind owns an entity. -/
def owner (s : Session) (id : EntityId) (f : KindFilter) : Except Error (Option Edge) := do
  let e ← s.queried id
  return s.ownerEdge? e.id f

/-- The owner of an entity among the configured kinds. -/
def ownerClass (s : Session) (id : EntityId) : Except Error (Option Entity) := do
  let e ← s.queried id
  return (s.ownerEdge? e.id s.traversal.ownerKinds).map (·.far)

/-- The owner of an entity, of whatever kind. -/
def parent (s : Session) (id : EntityId) : Except Error (Option Entity) := do
  let e ← s.queried id
  return s.parent? e

end CodeGraph.Session
