import CodeGraph.Proofs.Dependency.Aggregation
import Mathlib.Data.List.Sort

/-!
# Sessions by evaluation

The merge sort of the library recurses on the length of its list, which does not reduce. It has the
result of a sort by insertion, which does. A session over given entities and references can so be
put together by evaluation, and its answers follow.

## Main definitions

* `Session.evaluated` — the session over a database, put together by insertion

## Main results

* `mergeSort_eq_insertionSort` — both sorts are stable
* `Session.IsOver.eq_evaluated` — a session over the database is the one put together by insertion
* `Session.IsOver.aggregate_eq_evaluated` — a map of dependencies by insertion
-/

namespace CodeGraph

/-! ### Sorting by insertion -/

section Sorting

variable {α : Type} {r : α → α → Bool} {a : α} {before after : List α}

theorem orderedInsert_append (hbefore : ∀ b ∈ before, ¬ r a b) (hafter : ∀ b ∈ after, r a b) :
    (before ++ after).orderedInsert (fun a b => r a b) a = before ++ a :: after := by
  induction before with
  | nil =>
    cases after with
    | nil => rfl
    | cons b after => simp [hafter b List.mem_cons_self]
  | cons b before ih =>
    rw [List.forall_mem_cons] at hbefore
    rw [List.cons_append, List.orderedInsert_cons, if_neg hbefore.1, ih hbefore.2]
    rfl

/-- Both sorts keep the order of tied elements. -/
theorem mergeSort_eq_insertionSort (htrans : ∀ a b c, r a b → r b c → r a c)
    (htotal : ∀ a b, r a b || r b a) (xs : List α) :
    xs.mergeSort r = xs.insertionSort fun a b => r a b := by
  induction xs with
  | nil => rw [List.mergeSort_nil, List.insertionSort_nil]
  | cons a xs ih =>
    obtain ⟨before, after, hsort, hrest, hbefore⟩ := List.mergeSort_cons htrans htotal a xs
    have hsorted := List.pairwise_mergeSort htrans htotal (a :: xs)
    rw [hsort] at hsorted
    have hafter : ∀ b ∈ after, r a b :=
      (List.pairwise_cons.mp (List.pairwise_append.mp hsorted).2.1).1
    rw [hsort, List.insertionSort_cons, ← ih, hrest, orderedInsert_append ?_ hafter]
    intro b hb
    simpa using hbefore b hb

end Sorting

/-! ### The parts of a session -/

/-- The catalogue of entities in the given order. -/
def Catalog.filed (es : List Entity) : Catalog where
  entities := es
  byId := Register.ofList (·.id) es
  byName := Register.ofList (·.name) es
  byLongname := Register.ofList (·.longname) es

/-- The catalogue of entities, put together by insertion. -/
def Catalog.evaluated (es : List Entity) : Catalog :=
  filed (es.insertionSort fun a b => inOrder a b)

/-- The index of forward edges, put together by insertion. -/
def EdgeIndex.evaluated (forward : List Edge) : EdgeIndex where
  byNear := Register.ofList (·.near.id)
    ((views forward).insertionSort fun a b => Edge.inOrder a b)
  byTarget := Register.ofList (·.far.id) (forward.insertionSort fun a b => Edge.inOrder a b)

theorem Catalog.ofEntities_eq_evaluated {es : List Entity} {c : Catalog}
    (h : ofEntities es = .ok c) : c = evaluated es := by
  have hsort : es.mergeSort inOrder = es.insertionSort fun a b => inOrder a b :=
    mergeSort_eq_insertionSort inOrder_trans inOrder_total es
  rw [ofEntities, hsort] at h
  split at h
  · contradiction
  · exact (Except.ok.inj h).symm

theorem EdgeIndex.ofForward_eq_evaluated (forward : List Edge) :
    ofForward forward = evaluated forward := by
  have hsort (es : List Edge) :
      es.mergeSort Edge.inOrder = es.insertionSort fun a b => Edge.inOrder a b :=
    mergeSort_eq_insertionSort Edge.inOrder_trans Edge.inOrder_total es
  rw [ofForward, evaluated, ← views, hsort, hsort]

theorem DependencyMap.ofPairs_eq (ps : List (Entity × Edge)) :
    ofPairs ps = ⟨gatherRuns (ps.insertionSort fun a b => inOrder a b)⟩ := by
  rw [ofPairs, mergeSort_eq_insertionSort inOrder_trans inOrder_total]

namespace Session

variable {s : Session} {db : Database} {config : Config} {root : Entity}

/-- The session over a database, put together by insertion. -/
def evaluated (db : Database) (traversal : Traversal) : Session where
  database := db
  traversal := traversal
  catalog := Catalog.evaluated db.entities
  index := EdgeIndex.evaluated
    ((EdgeIndex.forwardEdges (Catalog.evaluated db.entities) 0 db.references).toOption.getD [])

/-- A session over the database is the one put together by insertion. -/
theorem IsOver.eq_evaluated (h : s.IsOver db config) : s = evaluated db s.traversal := by
  have hcatalog : s.catalog = Catalog.evaluated db.entities :=
    Catalog.ofEntities_eq_evaluated h.catalog
  obtain ⟨forward, hforward, hindex⟩ := EdgeIndex.ofReferences_eq_ok_iff.mp h.index
  rw [hcatalog] at hforward
  rw [evaluated, hforward, ← hcatalog, ← h.database]
  dsimp only [Except.toOption, Option.getD_some]
  rw [← EdgeIndex.ofForward_eq_evaluated, ← hindex]

/-- What a map of dependencies holds, by insertion throughout. -/
theorem IsOver.aggregate_eq_evaluated (h : s.IsOver db config) (hroot : root ∈ db.entities)
    (direction : Direction) : s.aggregate direction root.id = .ok ⟨DependencyMap.gatherRuns
      (((evaluated db s.traversal).dependencyPairs direction root).insertionSort
        fun a b => DependencyMap.inOrder a b)⟩ := by
  rw [aggregate_eq_ok h hroot, DependencyMap.ofPairs_eq, ← h.eq_evaluated]

end Session

end CodeGraph
