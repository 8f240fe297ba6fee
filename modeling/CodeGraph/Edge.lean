import CodeGraph.Reference

/-!
# Edges

A stored reference is seen from both of its ends. From its source it is a forward edge with the
stored kind, from its target an inverse edge with the inverse kind. Edges are listed by location.

## Main definitions

* `Edge` — a reference as seen from one of its ends
* `Edge.reversed` — the inverse edge of a forward edge
* `Edge.number` — the place of the edge among all edges of a database
* `Edge.compareLocation` — the order by location
-/

namespace CodeGraph

/-- The end from which a reference is seen. -/
inductive Direction where
  | forward
  | inverse
  deriving DecidableEq, Repr

/-- A reference as seen from one of its ends. -/
structure Edge where
  /-- The number of the stored reference. -/
  record : Nat
  direction : Direction
  /-- The relation as seen from the near end. -/
  kind : Kind
  /-- The entity from which the reference is seen. -/
  near : Entity
  /-- The entity on the other end. -/
  far : Entity
  /-- The file in which the reference occurs. -/
  file : Entity
  position : Position
  deriving DecidableEq

namespace Edge

/-- The edge is seen from the target of its reference. -/
def isInverse (e : Edge) : Bool :=
  e.direction = .inverse

/-- The inverse edge of a forward edge. -/
def reversed (e : Edge) : Edge :=
  { e with direction := .inverse, kind := e.kind.inverse, near := e.far, far := e.near }

/-- The place of the edge among all edges: each reference has its forward edge, then its inverse
edge. -/
def number (e : Edge) : Nat :=
  match e.direction with
  | .forward => 2 * e.record
  | .inverse => 2 * e.record + 1

/-- The order by location: long name and number of the file, line, column. Edges of one location
are ordered by the relation, the number of the far end and the number of the edge. -/
def compareLocation : Edge → Edge → Ordering :=
  compareLex (compareOn (·.file.longname)) <|
  compareLex (compareOn (·.file.id)) <|
  compareLex (compareOn (·.position.line)) <|
  compareLex (compareOn (·.position.column)) <|
  compareLex (compareOn (·.kind.name)) <|
  compareLex (compareOn (·.far.id)) (compareOn (·.number))

/-- The edge comes no later than another. -/
def inOrder (a b : Edge) : Bool :=
  (compareLocation a b).isLE

end Edge

end CodeGraph
