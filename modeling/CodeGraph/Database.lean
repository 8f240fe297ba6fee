import CodeGraph.Reference
import CodeGraph.Token

/-!
# Databases

A database is what a session reads: entities and forward references in storage order, the tokens of
its files, and a judgement on which entities are placeholders for code that could not be resolved.
-/

namespace CodeGraph

/-- The content of a code database as a session sees it. -/
structure Database where
  name : String
  languages : List String
  /-- Every entity, in storage order. -/
  entities : List Entity
  /-- Every forward reference, in storage order. -/
  references : List Reference
  /-- The tokens recorded for a file. -/
  tokensOf : EntityId → Option (List Token)
  /-- The entity stands for code that could not be resolved. -/
  isUnresolved : Entity → Bool
  /-- The owner has not closed the database. -/
  isOpen : Bool

/-- The database after its owner has closed it. -/
def Database.close (db : Database) : Database :=
  { db with isOpen := false }

/-- The database after its owner has opened it again. -/
def Database.reopen (db : Database) : Database :=
  { db with isOpen := true }

end CodeGraph
