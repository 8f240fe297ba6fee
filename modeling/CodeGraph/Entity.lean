import CodeGraph.Kind

/-!
# Entities

An entity is a named code construct: a file, a class, a method, a variable. Its identity is its
number, never its name.

## Main definitions

* `EntityId` — the number of an entity
* `Entity` — an entity with its names, kind and declared types
-/

namespace CodeGraph

/-- The number that identifies an entity. -/
structure EntityId where
  value : UInt32
  deriving DecidableEq, Repr

namespace EntityId

instance : Ord EntityId := ⟨compareOn value⟩

theorem compare_eq (a b : EntityId) : compare a b = compare a.value b.value :=
  rfl

instance : Std.TransOrd EntityId :=
  inferInstanceAs (Std.TransCmp (compareOn value))

instance : Std.LawfulEqOrd EntityId where
  eq_of_compare {a b} h := by
    rw [compare_eq, Std.compare_eq_iff_eq] at h
    cases a
    cases b
    exact congrArg mk h

theorem compare_eq_lt_iff {a b : EntityId} : compare a b = .lt ↔ a.value < b.value := by
  rw [compare_eq]
  exact Std.compare_eq_lt

theorem compare_isLE_iff {a b : EntityId} : (compare a b).isLE ↔ a.value ≤ b.value := by
  rw [compare_eq]
  exact Std.isLE_compare

/-- The number as messages show it. -/
def text (id : EntityId) : String :=
  s!"#{id.value.toNat}"

end EntityId

/-- A named code construct. -/
structure Entity where
  id : EntityId
  /-- The short name, such as `login`. -/
  name : String
  /-- The qualified name, such as `app.auth.UserService.login`. -/
  longname : String
  kind : Kind
  /-- The declared types, such as a return type. -/
  types : List String
  deriving DecidableEq

/-- The declared types as one text. -/
def Entity.typeAnnotation (e : Entity) : String :=
  " ".intercalate e.types

end CodeGraph
