import CodeGraph.Ownership

/-!
# Members and ancestors

The members of an entity are what it contains, at any depth, short of entities of its own category:
a class does not take in the classes nested in it. In the other direction an entity is lifted to
its nearest ancestor of a category, for instance a method to its class or to its file.

## Main definitions

* `Session.members` — an entity and its members, breadth first
* `Session.lift` — the nearest ancestor, or the entity itself, of a category
-/

namespace CodeGraph.Session

/-- The entities that `e` contains directly and whose category is not `category`, by location. -/
def contents (s : Session) (category : String) (e : Entity) : List Entity :=
  match s.traversal.containment with
  | none => []
  | some f =>
    ((s.index.leaving e.id).filter fun x =>
      !x.isInverse && f.selects x.kind && x.far.kind.category != category).map (·.far)

/-- The entities found, with those that the first `n` of the pending ones lead to. What an entity
contains is appended to both lists unless it has been found. -/
def gather (s : Session) (category : String) : Nat → List Entity → List Entity → List Entity
  | 0, _, found => found
  | _, [], found => found
  | n + 1, e :: pending, found =>
    -- each entity is pending at most once, so the walk ends on cycles too
    let fresh := firstOfKey Entity.id (found.map (·.id)) (s.contents category e)
    gather s category n (pending ++ fresh) (found ++ fresh)

/-- An entity and its members, breadth first. No more entities than there are can be pending. -/
def members (s : Session) (root : Entity) : List Entity :=
  s.gather root.kind.category s.catalog.size [root] [root]

/-- The first entity of a category among `e` and its next `n - 1` ancestors. -/
def ancestor? (s : Session) (category : String) : Nat → Entity → Option Entity
  | 0, _ => none
  | n + 1, e =>
    if e.kind.category = category then some e
    else match s.parent? e with
      | some p => ancestor? s category n p
      | none => none

/-- The nearest of `e` and its ancestors that has the category, and `e` if there is none. An
ancestor not met within as many steps as there are entities is never met. -/
def lift (s : Session) (category : String) (e : Entity) : Entity :=
  (s.ancestor? category (s.catalog.size + 1) e).getD e

end CodeGraph.Session
