import CodeGraph.Proofs.Dependency.Aggregation
import CodeGraph.Proofs.Storage.Queries
import Mathlib.Data.List.Forall2

/-!
# Dependencies of alike sessions

Alike sessions give maps of dependencies that are seen to be the same. Maps of dependents have the
same entries, but under a key references that arrive at one entity from one place by one relation
may change places.

## Main definitions

* `DependencyMap.mapEdges` — the map with its references replaced
* `DependencyMap.SameUpToTies` — the maps agree except for the order of tied references

## Main results

* `Session.IsAlike.dependencies_alike`, `Session.dependents_alike` — what alike sessions answer
-/

namespace CodeGraph

namespace DependencyMap

variable {ps ps' : List (Entity × Edge)} {m m' : DependencyMap}

/-- The map with its references replaced. -/
def mapEdges (f : Edge → Edge) (m : DependencyMap) : DependencyMap :=
  ⟨m.entries.map fun g => (g.1, g.2.map f)⟩

/-- The maps have the same keys. Under each key they list references that are seen to be the same,
in an order that may differ among those that arrive at one entity from one place by one relation. -/
def SameUpToTies (m m' : DependencyMap) : Prop :=
  List.Forall₂ (fun g g' => g.1 = g'.1 ∧ (g.2.map Edge.seen).Perm (g'.2.map Edge.seen) ∧
    g.2.map Edge.arrival = g'.2.map Edge.arrival) m.entries m'.entries

theorem gatherRuns_map (f : Edge → Edge) (ps : List (Entity × Edge)) :
    gatherRuns (ps.map fun p => (p.1, f p.2)) =
      (gatherRuns ps).map fun g => (g.1, g.2.map f) := by
  induction ps with
  | nil => rfl
  | cons p ps ih =>
    rw [List.map_cons, gatherRuns, gatherRuns, ih]
    cases gatherRuns ps with
    | nil => rfl
    | cons g groups =>
      simp only [List.map_cons]
      split <;> rfl

theorem ofPairs_map (f : Edge → Edge) (ps : List (Entity × Edge)) :
    ofPairs (ps.map fun p => (p.1, f p.2)) = (ofPairs ps).mapEdges f := by
  have hsort : (ps.mergeSort inOrder).map (fun p => (p.1, f p.2)) =
      (ps.map fun p => (p.1, f p.2)).mergeSort inOrder :=
    List.map_mergeSort fun _ _ _ _ => rfl
  rw [ofPairs, ofPairs, mapEdges, ← hsort, gatherRuns_map]

/-! ### Entries by their keys -/

theorem mem_keys_ofPairs_iff (h : Keyed ps) {k : Entity} :
    k ∈ (ofPairs ps).keys ↔ k ∈ ps.map (·.1) := by
  constructor
  · intro hk
    obtain ⟨g, hg, rfl⟩ := List.mem_map.mp hk
    obtain ⟨e, he⟩ := exists_mem_of_mem_gatherRuns (keyed_mergeSort h) hg
    exact List.mem_map.mpr ⟨(g.1, e), List.mem_mergeSort.mp he, rfl⟩
  · intro hk
    obtain ⟨p, hp, rfl⟩ := List.mem_map.mp hk
    obtain ⟨es, hes, -⟩ := mem_pairs_iff.mp ((perm_pairs_ofPairs h).mem_iff.mpr hp)
    exact List.mem_map.mpr ⟨(p.1, es), hes, rfl⟩

theorem pairwise_keys_ofPairs (h : Keyed ps) :
    (ofPairs ps).keys.Pairwise fun a b => a.id.value < b.id.value :=
  List.pairwise_map.mpr (ascending_ofPairs h)

theorem nodup_keys_ofPairs (h : Keyed ps) : (ofPairs ps).keys.Nodup :=
  (Catalog.nodup_of_pairwise (pairwise_keys_ofPairs h)).of_map _

/-- The keys of a map are determined by those of its pairs. -/
theorem keys_ofPairs_congr (h : Keyed ps) (h' : Keyed ps')
    (hperm : (ps.map (·.1)).Perm (ps'.map (·.1))) : (ofPairs ps).keys = (ofPairs ps').keys := by
  refine List.Perm.eq_of_pairwise ?_ (pairwise_keys_ofPairs h) (pairwise_keys_ofPairs h') ?_
  · intro a b _ _ hab hba
    exact absurd (UInt32.lt_trans hab hba) (UInt32.lt_irrefl _)
  · apply (List.perm_ext_iff_of_nodup (nodup_keys_ofPairs h) (nodup_keys_ofPairs h')).mpr
    intro k
    rw [mem_keys_ofPairs_iff h, mem_keys_ofPairs_iff h', hperm.mem_iff]

theorem entries_ofPairs (h : Keyed ps) : (ofPairs ps).entries =
    (ofPairs ps).keys.map fun k => (k, (ps.filter (·.1.id = k.id)).map (·.2)) := by
  rw [keys, List.map_map]
  refine (List.map_id _).symm.trans (List.map_congr_left fun g hg => ?_)
  exact Prod.ext rfl (eq_of_mem_ofPairs h hg)

/-- Maps agree up to ties if their pairs do, key by key. -/
theorem sameUpToTies_ofPairs (h : Keyed ps) (h' : Keyed ps')
    (hperm : (ps.map fun p => (p.1, p.2.seen)).Perm (ps'.map fun p => (p.1, p.2.seen)))
    (htied : ∀ id, (ps.filter (·.1.id = id)).map (·.2.arrival) =
      (ps'.filter (·.1.id = id)).map (·.2.arrival)) :
    (ofPairs ps).SameUpToTies (ofPairs ps') := by
  have hkeys : (ofPairs ps).keys = (ofPairs ps').keys := by
    have hfirst := hperm.map (·.1)
    rw [List.map_map, List.map_map] at hfirst
    exact keys_ofPairs_congr h h' hfirst
  -- with the same keys it is enough to compare what is listed under each of them
  rw [SameUpToTies, entries_ofPairs h, entries_ofPairs h', hkeys, List.forall₂_map_left_iff,
    List.forall₂_map_right_iff, List.forall₂_same]
  intro k _
  refine ⟨rfl, ?_, ?_⟩
  · have hfilter := (hperm.filter fun p => p.1.id = k.id).map (·.2)
    rw [List.filter_map, List.filter_map, List.map_map, List.map_map] at hfilter
    rw [List.map_map, List.map_map]
    exact hfilter
  · have hk := htied k.id
    rw [List.map_map, List.map_map]
    exact hk

end DependencyMap

namespace Session

variable {s s' : Session} {db db' : Database} {config : Config} {root : Entity}
  {direction : Direction}

/-! ### The pairs of alike sessions -/

theorem dependencyKey?_seen (s : Session) (direction : Direction) (root : Entity) (e : Edge) :
    s.dependencyKey? direction root e.seen = s.dependencyKey? direction root e := by
  cases direction <;> rfl

/-- The pairs of one member look at what is seen only. -/
theorem map_seen_memberPairs (s : Session) (direction : Direction) (root : Entity)
    (es : List Edge) :
    (es.filterMap fun e => (s.dependencyKey? direction root e).map (·, e)).map
        (fun p => (p.1, p.2.seen)) =
      (es.map Edge.seen).filterMap fun e => (s.dependencyKey? direction root e).map (·, e) := by
  rw [List.map_filterMap, List.filterMap_map]
  refine congrArg (fun f => es.filterMap f) (funext fun e => ?_)
  rw [Function.comp_apply, dependencyKey?_seen, Option.map_map]
  rfl

/-- Of the pairs of one member, those under one key come from the edges with that key. -/
theorem map_arrival_memberPairs (s : Session) (direction : Direction) (root : Entity)
    (id : EntityId) (es : List Edge) :
    ((es.filterMap fun e => (s.dependencyKey? direction root e).map (·, e)).filter
        (·.1.id = id)).map (·.2.arrival) =
      (es.filter fun e => (s.dependencyKey? direction root e.seen).any (·.id = id)).map
        Edge.arrival := by
  induction es with
  | nil => rfl
  | cons e es ih =>
    rw [List.filterMap_cons, List.filter_cons, dependencyKey?_seen]
    cases s.dependencyKey? direction root e with
    | none => exact ih
    | some k =>
      simp only [Option.map_some, Option.any_some, List.filter_cons]
      split
      · simp only [List.map_cons, ih]
      · exact ih

namespace IsAlike

theorem dependencyKey?_eq (h : s.IsAlike s') (direction : Direction) (root : Entity) (e : Edge) :
    s.dependencyKey? direction root e = s'.dependencyKey? direction root e := by
  have hcounts : s.counts e = s'.counts e := by rw [counts, counts, h.traversal]
  rw [dependencyKey?, dependencyKey?, hcounts, h.lift_eq, h.isUnresolved]

theorem map_seen_dependencyPairs (h : s.IsAlike s') (root : Entity) :
    (s.dependencyPairs .forward root).map (fun p => (p.1, p.2.seen)) =
      (s'.dependencyPairs .forward root).map fun p => (p.1, p.2.seen) := by
  have hcrossing (m : Entity) : (s.crossing .forward m.id).map Edge.seen =
      (s'.crossing .forward m.id).map Edge.seen :=
    h.leaving m.id fun d => !decide (d = .inverse)
  rw [dependencyPairs, dependencyPairs, List.map_flatMap, List.map_flatMap, h.members_eq]
  refine List.flatMap_congr fun m _ => ?_
  rw [map_seen_memberPairs, map_seen_memberPairs, hcrossing]
  simp only [h.dependencyKey?_eq]

/-- Maps of dependencies are seen to be the same. -/
theorem dependencies_alike (h : s.IsAlike s') (id : EntityId) :
    (s.dependencies id).map (DependencyMap.mapEdges Edge.seen) =
      (s'.dependencies id).map (DependencyMap.mapEdges Edge.seen) := by
  rw [dependencies, dependencies, aggregate, aggregate, h.queried_eq]
  cases s'.queried id with
  | error e => rfl
  | ok root =>
    apply congrArg Except.ok
    rw [← DependencyMap.ofPairs_map, ← DependencyMap.ofPairs_map, h.map_seen_dependencyPairs]

theorem perm_dependencyPairs (h : s.IsAlike s') (root : Entity) :
    ((s.dependencyPairs .inverse root).map fun p => (p.1, p.2.seen)).Perm
      ((s'.dependencyPairs .inverse root).map fun p => (p.1, p.2.seen)) := by
  rw [dependencyPairs, dependencyPairs, List.map_flatMap, List.map_flatMap, h.members_eq]
  refine List.Perm.flatMap_left _ fun m _ => ?_
  rw [map_seen_memberPairs, map_seen_memberPairs]
  simp only [h.dependencyKey?_eq]
  exact (h.arriving_perm m.id).filterMap _

theorem map_arrival_dependencyPairs (h : s.IsAlike s') (root : Entity) (id : EntityId) :
    ((s.dependencyPairs .inverse root).filter (·.1.id = id)).map (·.2.arrival) =
      ((s'.dependencyPairs .inverse root).filter (·.1.id = id)).map (·.2.arrival) := by
  rw [dependencyPairs, dependencyPairs, List.filter_flatMap, List.filter_flatMap,
    List.map_flatMap, List.map_flatMap, h.members_eq]
  refine List.flatMap_congr fun m _ => ?_
  rw [map_arrival_memberPairs, map_arrival_memberPairs]
  simp only [h.dependencyKey?_eq]
  exact h.arriving m.id fun e => (s'.dependencyKey? .inverse root e).any (·.id = id)

end IsAlike

/-- Queries for dependents fail alike, or give maps that agree up to ties. -/
theorem dependents_alike (h : s.IsOver db config) (h' : s'.IsOver db' config)
    (halike : s.IsAlike s') (id : EntityId) :
    (∃ e, s.dependents id = .error e ∧ s'.dependents id = .error e) ∨
      ∃ m m', s.dependents id = .ok m ∧ s'.dependents id = .ok m' ∧ m.SameUpToTies m' := by
  cases hqueried : s.queried id with
  | error e =>
    have hqueried' := halike.queried_eq id ▸ hqueried
    refine Or.inl ⟨e, ?_, ?_⟩
    · rw [dependents, aggregate, hqueried]
      rfl
    · rw [dependents, aggregate, hqueried']
      rfl
  | ok root =>
    have hqueried' := halike.queried_eq id ▸ hqueried
    obtain ⟨hroot, rfl⟩ := h.queried_eq_ok_iff.mp hqueried
    obtain ⟨hroot', -⟩ := h'.queried_eq_ok_iff.mp hqueried'
    exact Or.inr ⟨_, _, aggregate_eq_ok h hroot, aggregate_eq_ok h' hroot',
      DependencyMap.sameUpToTies_ofPairs (keyed_dependencyPairs h hroot)
        (keyed_dependencyPairs h' hroot') (halike.perm_dependencyPairs root)
        (halike.map_arrival_dependencyPairs root)⟩

end Session

end CodeGraph
