import CodeGraph.Entity
import CodeGraph.Position

/-!
# References

A reference records that one entity relates to another at a place in a file. A database stores it
once, from its source to its target.
-/

namespace CodeGraph

/-- A stored relation between two entities. -/
structure Reference where
  source : EntityId
  target : EntityId
  kind : Kind
  /-- The file in which the relation occurs. -/
  file : EntityId
  position : Position
  deriving DecidableEq

end CodeGraph
