import Std.Data.TreeMap

/-!
# Registers

A register files the elements of a list under a key, so that those of one key are found without a
scan. Under each key they keep the order of the list.

## Main definitions

* `Register.ofList` — the register of a list
* `Register.filed` — the elements under a key

## Main results

* `Register.filed_ofList` — the elements under a key are those of the list with that key, in order
-/

namespace CodeGraph

/-- The elements of a list by a key. -/
structure Register (κ α : Type) [Ord κ] where
  groups : Std.TreeMap κ (List α)

namespace Register

variable {κ α : Type} [Ord κ]

/-- The register without elements. -/
def empty : Register κ α :=
  ⟨∅⟩

/-- The register with an element filed before the others of its key. -/
def file (key : α → κ) (x : α) (r : Register κ α) : Register κ α :=
  ⟨r.groups.alter (key x) fun group => some (x :: group.getD [])⟩

/-- The register of a list. -/
def ofList (key : α → κ) (xs : List α) : Register κ α :=
  xs.foldr (file key) empty

/-- The elements under a key. -/
def filed (r : Register κ α) (k : κ) : List α :=
  r.groups.getD k []

variable [Std.TransOrd κ] [Std.LawfulEqOrd κ] [DecidableEq κ]

theorem filed_file (key : α → κ) (x : α) (r : Register κ α) (k : κ) :
    (r.file key x).filed k = if key x = k then x :: r.filed k else r.filed k := by
  unfold filed file
  rw [Std.TreeMap.getD_alter]
  by_cases h : key x = k
  · subst h
    simp [Std.TreeMap.getD_eq_getD_getElem?]
  · rw [if_neg h, if_neg (by rwa [Std.compare_eq_iff_eq])]

theorem filed_ofList (key : α → κ) (xs : List α) (k : κ) :
    (ofList key xs).filed k = xs.filter (key · = k) := by
  induction xs with
  | nil => exact Std.TreeMap.getD_emptyc
  | cons x xs ih =>
    rw [ofList, List.foldr_cons, ← ofList, filed_file, ih]
    by_cases h : key x = k <;> simp [h]

end Register

end CodeGraph
