import CodeGraph.Membership

/-!
# Dependencies

The references that leave an entity and its members are grouped by what they reach, lifted to the
category of the entity: for a class, the class that owns a called method. The same is done for the
references that arrive. Relations excluded by the settings do not count, nor do references that
stay inside the entity or involve unresolved code.

## Main definitions

* `DependencyMap` — references by the entity that they reach or come from
* `Session.dependencies` — what an entity depends on
* `Session.dependents` — what depends on an entity
-/

namespace CodeGraph

/-- References by the entity that they reach or come from, by ascending number. -/
structure DependencyMap where
  entries : List (Entity × List Edge)
  deriving DecidableEq

namespace DependencyMap

/-- The number of entities reached. -/
def size (m : DependencyMap) : Nat :=
  m.entries.length

/-- Nothing is reached. -/
def isEmpty (m : DependencyMap) : Bool :=
  m.entries.isEmpty

/-- The entities reached. -/
def keys (m : DependencyMap) : List Entity :=
  m.entries.map (·.1)

/-- The references filed under a number among entries by ascending number, found by halving. -/
def search (id : EntityId) (entries : List (Entity × List Edge)) : Option (List Edge) :=
  let half := entries.length / 2
  match _split : entries.drop half with
  | [] => none
  | (key, refs) :: later =>
    match compare id key.id with
    | .lt => search id (entries.take half)
    | .eq => some refs
    | .gt => search id later
termination_by entries.length
decreasing_by
  all_goals
    have := congrArg List.length _split
    grind

/-- The references by which an entity is reached. -/
def get? (m : DependencyMap) (id : EntityId) : Option (List Edge) :=
  search id m.entries

/-- The number of references. -/
def edgeCount (m : DependencyMap) : Nat :=
  (m.entries.flatMap (·.2)).length

/-- Neighbouring pairs with one key, gathered under it. -/
def gatherRuns : List (Entity × Edge) → List (Entity × List Edge)
  | [] => []
  | (key, e) :: rest =>
    match gatherRuns rest with
    | [] => [(key, [e])]
    | (next, es) :: groups =>
      if key.id = next.id then (key, e :: es) :: groups else (key, [e]) :: (next, es) :: groups

/-- The pair with the lower key first. -/
def inOrder (a b : Entity × Edge) : Bool :=
  (compare a.1.id b.1.id).isLE

/-- The map of references with their keys. Under a key the references keep their order. -/
def ofPairs (pairs : List (Entity × Edge)) : DependencyMap :=
  ⟨gatherRuns (pairs.mergeSort inOrder)⟩

end DependencyMap

namespace Session

/-- The forward edges that leave an entity or, for the inverse direction, arrive at it. -/
def crossing (s : Session) (direction : Direction) (id : EntityId) : List Edge :=
  match direction with
  | .forward => (s.index.leaving id).filter (! ·.isInverse)
  | .inverse => s.index.arriving id

/-- The end of a forward edge that lies away from the entity it was listed for. -/
def neighbour (direction : Direction) (e : Edge) : Entity :=
  match direction with
  | .forward => e.far
  | .inverse => e.near

/-- The relation of the edge is none of the excluded ones. -/
def counts (s : Session) (e : Edge) : Bool :=
  match s.traversal.dependencyExclude with
  | some f => !f.selects e.kind
  | none => true

/-- The entity under which an edge of a member of `root` is listed, if it is listed at all. -/
def dependencyKey? (s : Session) (direction : Direction) (root : Entity) (e : Edge) :
    Option Entity :=
  let far := neighbour direction e
  let key := s.lift root.kind.category far
  if s.counts e && key.id != root.id && !s.database.isUnresolved far &&
      !s.database.isUnresolved key then some key
  else none

/-- The edges of `root` and its members that are listed, each with its key. -/
def dependencyPairs (s : Session) (direction : Direction) (root : Entity) :
    List (Entity × Edge) :=
  (s.members root).flatMap fun m =>
    (s.crossing direction m.id).filterMap fun e =>
      (s.dependencyKey? direction root e).map (·, e)

/-- The references that leave an entity and its members, or arrive there. -/
def aggregate (s : Session) (direction : Direction) (id : EntityId) :
    Except Error DependencyMap := do
  let root ← s.queried id
  return DependencyMap.ofPairs (s.dependencyPairs direction root)

/-- What an entity depends on. -/
def dependencies (s : Session) (id : EntityId) : Except Error DependencyMap :=
  s.aggregate .forward id

/-- What depends on an entity. -/
def dependents (s : Session) (id : EntityId) : Except Error DependencyMap :=
  s.aggregate .inverse id

end Session

end CodeGraph
