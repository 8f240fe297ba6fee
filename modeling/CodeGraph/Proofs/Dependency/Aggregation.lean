import CodeGraph.Proofs.Dependency.Map
import CodeGraph.Proofs.Membership
import CodeGraph.Proofs.Ownership
import Mathlib.Data.Set.Card

/-!
# What dependencies list

The edges that leave an entity and its members are kept unless they are excluded, stay inside the
entity or involve unresolved code. The map of dependencies lists every kept edge once, under the
entity that its far end is lifted to, and nothing else. The same holds of the map of dependents,
with the edges that arrive.

## Main definitions

* `Session.Keeps` — an edge is kept under a key
* `Session.Aggregates` — a map lists the kept edges, each once, in order

## Main results

* `Session.aggregate_exact` — dependencies and dependents list exactly the kept edges
-/

namespace CodeGraph

/-- The settings exclude the relation from dependencies. A blank filter excludes nothing. -/
def GraphConfig.Excludes (c : GraphConfig) (k : Kind) : Prop :=
  ∃ f, KindFilter.parse c.dependencyExclude = .ok f ∧ ¬ f.isAll ∧ f.selects k

namespace Session

variable {s : Session} {db : Database} {config : Config} {direction : Direction}
  {root k m : Entity} {e : Edge}

/-- The end of a forward edge that lies at the entity it was listed for. -/
def base (direction : Direction) (e : Edge) : Entity :=
  match direction with
  | .forward => e.near
  | .inverse => e.far

/-- The map of `root` keeps the edge under the key `k`: a stored edge at a member of `root` whose
relation is not excluded. Its other end is lifted to `k`, outside of `root`, and neither is
unresolved. -/
structure Keeps (s : Session) (db : Database) (config : Config) (direction : Direction)
    (root k : Entity) (e : Edge) : Prop where
  stored : db.Stores e
  member : base direction e ∈ s.members root
  counted : ¬ config.graph.Excludes e.kind
  key : s.lift root.kind.category (neighbour direction e) = k
  key_ne : k ≠ root
  resolved : ¬ db.isUnresolved (neighbour direction e)
  key_resolved : ¬ db.isUnresolved k

/-- By the order of the members of `root`, and at the same member by location. -/
def MemberOrder (s : Session) (direction : Direction) (root : Entity) (a b : Edge) : Prop :=
  (s.members root).idxOf (base direction a) < (s.members root).idxOf (base direction b) ∨
    base direction a = base direction b ∧ a.Before b

/-- The map lists the kept edges under their keys, each once and in order, and nothing else. -/
structure Aggregates (s : Session) (db : Database) (config : Config) (direction : Direction)
    (root : Entity) (m : DependencyMap) : Prop where
  lists_iff : ∀ k e, m.Lists k e ↔ s.Keeps db config direction root k e
  once : (m.entries.flatMap (·.2)).Nodup
  nonempty : ∀ k es, (k, es) ∈ m.entries → es ≠ []
  ascending : m.entries.Pairwise fun a b => a.1.id.value < b.1.id.value
  ordered : ∀ k es, (k, es) ∈ m.entries → es.Pairwise (s.MemberOrder direction root)
  edgeCount : m.edgeCount = {e | ∃ k, s.Keeps db config direction root k e}.ncard
  get? : ∀ id es, m.get? id = some es ↔ ∃ k, k.id = id ∧ (k, es) ∈ m.entries

/-! ### The edges at a member -/

theorem mem_crossing_iff (h : s.IsOver db config) (hm : m ∈ db.entities) :
    e ∈ s.crossing direction m.id ↔ db.Stores e ∧ base direction e = m := by
  cases direction with
  | forward =>
    rw [crossing, List.mem_filter, Bool.not_eq_true', h.mem_leaving_forward_iff]
    refine and_congr_right fun he => ?_
    exact ⟨h.holds.eq_of_id_eq he.near hm, congrArg Entity.id⟩
  | inverse =>
    rw [crossing, h.mem_arriving_iff]
    refine and_congr_right fun he => ?_
    exact ⟨h.holds.eq_of_id_eq he.far hm, congrArg Entity.id⟩

theorem pairwise_crossing (h : s.IsOver db config) (direction : Direction) (id : EntityId) :
    (s.crossing direction id).Pairwise Edge.Before := by
  cases direction with
  | forward => exact (h.pairwise_leaving id).filter _
  | inverse => exact h.pairwise_arriving id

theorem stored_neighbour (he : db.Stores e) (direction : Direction) :
    neighbour direction e ∈ db.entities := by
  cases direction with
  | forward => exact he.far
  | inverse => exact he.near

/-! ### Kept edges -/

theorem counts_iff (h : s.IsOver db config) : s.counts e ↔ ¬ config.graph.Excludes e.kind := by
  obtain ⟨-, -, -, hexclude⟩ := Traversal.ofConfig_eq_ok_iff.mp h.traversal
  rw [GraphConfig.Excludes, Traversal.exists_selects_iff hexclude, counts]
  cases s.traversal.dependencyExclude <;> simp

theorem dependencyKey?_eq_some_iff (h : s.IsOver db config) (hroot : root ∈ db.entities)
    (he : db.Stores e) (hmember : base direction e ∈ s.members root) :
    s.dependencyKey? direction root e = some k ↔ s.Keeps db config direction root k e := by
  have hkey := h.stored_lift (stored_neighbour he direction) root.kind.category
  have hne : s.lift root.kind.category (neighbour direction e) ≠ root ↔
      (s.lift root.kind.category (neighbour direction e)).id ≠ root.id :=
    not_congr ⟨congrArg Entity.id, h.holds.eq_of_id_eq hkey hroot⟩
  simp only [dependencyKey?, Option.ite_none_right_eq_some, Bool.and_eq_true, bne_iff_ne,
    Bool.not_eq_true', counts_iff h, ← hne, h.database, Option.some.injEq]
  constructor
  · rintro ⟨⟨⟨⟨hcounted, hapart⟩, hresolved⟩, hkeyResolved⟩, rfl⟩
    exact ⟨he, hmember, hcounted, rfl, hapart, by simp [hresolved], by simp [hkeyResolved]⟩
  · rintro ⟨-, -, hcounted, rfl, hapart, hresolved, hkeyResolved⟩
    exact ⟨⟨⟨⟨hcounted, hapart⟩, by simpa using hresolved⟩, by simpa using hkeyResolved⟩, rfl⟩

theorem mem_dependencyPairs_iff (h : s.IsOver db config) (hroot : root ∈ db.entities) :
    (k, e) ∈ s.dependencyPairs direction root ↔ s.Keeps db config direction root k e := by
  simp only [dependencyPairs, List.mem_flatMap, List.mem_filterMap, Option.map_eq_some_iff,
    Prod.mk.injEq]
  constructor
  · rintro ⟨m, hm, e', hcrossing, k', hkey, rfl, rfl⟩
    obtain ⟨he, rfl⟩ := (mem_crossing_iff h (h.stored_of_mem_members hroot hm)).mp hcrossing
    exact (dependencyKey?_eq_some_iff h hroot he hm).mp hkey
  · intro hkeeps
    refine ⟨base direction e, hkeeps.member, e, ?_, k, ?_, rfl, rfl⟩
    · exact (mem_crossing_iff h (h.stored_of_mem_members hroot hkeeps.member)).mpr
        ⟨hkeeps.stored, rfl⟩
    · exact (dependencyKey?_eq_some_iff h hroot hkeeps.stored hkeeps.member).mpr hkeeps

/-- Keys are stored entities, so they are told apart by their numbers. -/
theorem keyed_dependencyPairs (h : s.IsOver db config) (hroot : root ∈ db.entities) :
    DependencyMap.Keyed (s.dependencyPairs direction root) := by
  have hstored : ∀ p ∈ s.dependencyPairs direction root, p.1 ∈ db.entities := by
    intro p hp
    have hkeeps := (mem_dependencyPairs_iff h hroot).mp hp
    rw [← hkeeps.key]
    exact h.stored_lift (stored_neighbour hkeeps.stored direction) _
  intro p hp q hq hid
  exact h.holds.eq_of_id_eq (hstored p hp) (hstored q hq) hid

/-! ### The order of the pairs -/

theorem pairwise_dependencyPairs (h : s.IsOver db config) (hroot : root ∈ db.entities) :
    (s.dependencyPairs direction root).Pairwise fun p q =>
      s.MemberOrder direction root p.2 q.2 := by
  have hbase : ∀ m ∈ s.members root, ∀ p ∈ (s.crossing direction m.id).filterMap fun e =>
      (s.dependencyKey? direction root e).map (·, e), base direction p.2 = m := by
    intro m hm p hp
    obtain ⟨e, hcrossing, hkey⟩ := List.mem_filterMap.mp hp
    obtain ⟨k, -, rfl⟩ := Option.map_eq_some_iff.mp hkey
    exact ((mem_crossing_iff h (h.stored_of_mem_members hroot hm)).mp hcrossing).2
  -- pairs of one member come by location, pairs of different members in the order of these
  refine List.pairwise_flatMap.mpr ⟨fun m hm => ?_, ?_⟩
  · have hlocation : ((s.crossing direction m.id).filterMap fun e =>
        (s.dependencyKey? direction root e).map (·, e)).Pairwise fun p q => p.2.Before q.2 := by
      refine List.pairwise_filterMap.mpr ((pairwise_crossing h direction m.id).imp ?_)
      intro a b hab p hp q hq
      obtain ⟨k, -, rfl⟩ := Option.map_eq_some_iff.mp hp
      obtain ⟨l, -, rfl⟩ := Option.map_eq_some_iff.mp hq
      exact hab
    refine hlocation.imp_of_mem fun hp hq hpq => Or.inr ⟨?_, hpq⟩
    rw [hbase m hm _ hp, hbase m hm _ hq]
  · have hmembers := pairwise_idxOf ((h.nodup_id_members hroot).of_map _)
    refine hmembers.imp_of_mem fun ha hb hab p hp q hq => Or.inl ?_
    rwa [hbase _ ha p hp, hbase _ hb q hq]

theorem MemberOrder.ne {a b : Edge} (h : s.MemberOrder direction root a b) : a ≠ b := by
  rintro rfl
  rcases h with hlt | ⟨-, hbefore⟩
  · exact Nat.lt_irrefl _ hlt
  · exact hbefore.ne rfl

/-! ### The map -/

open DependencyMap in
theorem aggregates_ofPairs (h : s.IsOver db config) (hroot : root ∈ db.entities) :
    s.Aggregates db config direction root
      (DependencyMap.ofPairs (s.dependencyPairs direction root)) := by
  have hkeyed : Keyed (s.dependencyPairs direction root) := keyed_dependencyPairs h hroot
  have hperm := perm_pairs_ofPairs hkeyed
  have hordered : (s.dependencyPairs direction root).Pairwise fun p q =>
      s.MemberOrder direction root p.2 q.2 := pairwise_dependencyPairs h hroot
  have hedges := map_snd_pairs (ofPairs (s.dependencyPairs direction root)).entries
  have honce : ((ofPairs (s.dependencyPairs direction root)).entries.flatMap (·.2)).Nodup := by
    rw [← hedges, (hperm.map (·.2)).nodup_iff]
    exact List.pairwise_map.mpr (hordered.imp MemberOrder.ne)
  have hlists (k : Entity) (e : Edge) : (ofPairs (s.dependencyPairs direction root)).Lists k e ↔
      s.Keeps db config direction root k e := by
    rw [DependencyMap.Lists, ← mem_pairs_iff, hperm.mem_iff, mem_dependencyPairs_iff h hroot]
  constructor
  case lists_iff => exact hlists
  case once => exact honce
  case nonempty => exact fun k es hmem => ne_nil_of_mem_gatherRuns hmem
  case ascending => exact ascending_ofPairs hkeyed
  case ordered =>
    intro k es hmem
    rw [eq_of_mem_ofPairs hkeyed hmem]
    exact List.pairwise_map.mpr (hordered.filter _)
  case edgeCount =>
    -- the lists hold no edge twice, so their length is the number of kept edges
    have hkept : {e | ∃ k, s.Keeps db config direction root k e} =
        ((ofPairs (s.dependencyPairs direction root)).entries.flatMap (·.2)).toFinset := by
      ext e
      simp only [Set.mem_ofPred_eq, ← hlists, DependencyMap.Lists, List.coe_toFinset,
        List.mem_flatMap]
      constructor
      · intro ⟨k, es, hmem, he⟩
        exact ⟨(k, es), hmem, he⟩
      · intro ⟨g, hmem, he⟩
        exact ⟨g.1, g.2, hmem, he⟩
    rw [hkept, Set.ncard_coe_finset, List.toFinset_card_of_nodup honce]
    rfl
  case get? => exact fun id es => search_eq_some_iff (ascending_ofPairs hkeyed)

theorem aggregate_eq_ok (h : s.IsOver db config) (hroot : root ∈ db.entities) :
    s.aggregate direction root.id =
      .ok (DependencyMap.ofPairs (s.dependencyPairs direction root)) := by
  rw [aggregate, h.queried hroot]
  rfl

theorem exists_lists_aggregate_iff (h : s.IsOver db config) (hroot : root ∈ db.entities) :
    (∃ m, s.aggregate direction root.id = .ok m ∧ m.Lists k e) ↔
      s.Keeps db config direction root k e := by
  rw [← (aggregates_ofPairs h hroot).lists_iff, aggregate_eq_ok h hroot]
  simp

/-- The maps of dependencies and of dependents list exactly the kept edges. -/
theorem aggregate_exact (h : start db config = .ok s) (hroot : root ∈ db.entities) :
    (∃ m, s.dependencies root.id = .ok m ∧ s.Aggregates db config .forward root m) ∧
      ∃ m, s.dependents root.id = .ok m ∧ s.Aggregates db config .inverse root m := by
  have hover := start_eq_ok_iff.mp h
  constructor
  · exact ⟨_, aggregate_eq_ok hover hroot, aggregates_ofPairs hover hroot⟩
  · exact ⟨_, aggregate_eq_ok hover hroot, aggregates_ofPairs hover hroot⟩

open Sample in
theorem aggregate_exact_sample : ∃ s, start sample {} = .ok s ∧ classA ∈ sample.entities ∧
    (∃ m, s.dependencies classA.id = .ok m ∧ s.Aggregates sample {} .forward classA m) ∧
      ∃ m, s.dependents classA.id = .ok m ∧ s.Aggregates sample {} .inverse classA m := by
  obtain ⟨s, hs⟩ := exists_start_sample
  have hroot : classA ∈ sample.entities := by simp [sample]
  exact ⟨s, hs, hroot, aggregate_exact hs hroot⟩

end Session

end CodeGraph
