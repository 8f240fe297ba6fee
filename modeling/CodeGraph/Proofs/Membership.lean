import CodeGraph.Membership
import CodeGraph.Proofs.Session.Edges
import CodeGraph.Proofs.Session.FirstOfKey
import Mathlib.Data.List.Perm.Subperm
import Mathlib.Logic.Relation

/-!
# The closure under containment

The members of an entity are reached from it through contents, and each is listed once. The walk
keeps the entities that it has visited apart from those that it has only found; as both together are
distinct stored entities, it is finished after as many visits as there are entities.

## Main definitions

* `Session.IsWalk` — what a walk has visited and found is part of the closure
* `Session.Visits` — one step of the walk

## Main results

* `Session.IsOver.visits_members` — the walk comes to an end
* `Session.IsOver.mem_members_iff` — the members are what containment reaches
* `Session.IsOver.nodup_id_members` — no member is listed twice
-/

namespace CodeGraph

/-! ### Places in a list -/

section Places

variable {α : Type} [DecidableEq α] {l : List α} {r : α → α → Prop} {x y : α}

theorem pairwise_idxOf (h : l.Nodup) : l.Pairwise fun a b => l.idxOf a < l.idxOf b := by
  refine List.pairwise_iff_getElem.mpr fun i j hi hj hij => ?_
  rwa [h.idxOf_getElem, h.idxOf_getElem]

/-- What holds of pairs in order holds of elements by their places. -/
theorem rel_of_idxOf_lt (h : l.Pairwise r) (hy : y ∈ l) (hlt : l.idxOf x < l.idxOf y) : r x y := by
  have hlty : l.idxOf y < l.length := List.idxOf_lt_length_of_mem hy
  have hrel := List.pairwise_iff_getElem.mp h _ _ (hlt.trans hlty) hlty hlt
  rwa [List.getElem_idxOf, List.getElem_idxOf] at hrel

theorem idxOf_lt_idxOf {before after : List α} (h : (before ++ y :: after).Nodup)
    (hx : x ∈ before) : (before ++ y :: after).idxOf x < (before ++ y :: after).idxOf y :=
  (List.pairwise_append.mp (pairwise_idxOf h)).2.2 x hx y List.mem_cons_self

end Places

namespace Session

variable {s : Session} {db : Database} {config : Config} {category : String}
  {root e x y : Entity} {g : Edge} {done pending : List Entity}

/-- The entity contains another one, whose category is not `category`. -/
def Contains (s : Session) (category : String) (e x : Entity) : Prop :=
  x ∈ s.contents category e

/-- The edges by which `e` contains what it contains. -/
def containing (s : Session) (category : String) (e : Entity) : List Edge :=
  match s.traversal.containment with
  | none => []
  | some f =>
    (s.index.leaving e.id).filter fun g =>
      !g.isInverse && f.selects g.kind && g.far.kind.category != category

theorem contents_eq_map (s : Session) (category : String) (e : Entity) :
    s.contents category e = (s.containing category e).map (·.far) := by
  unfold contents containing
  cases s.traversal.containment <;> rfl

/-- The forward edges that `contents` follows are stored ones. -/
theorem IsOver.mem_containing_iff (h : s.IsOver db config) : g ∈ s.containing category e ↔
    (db.Stores g ∧ g.near.id = e.id) ∧ g.far.kind.category ≠ category ∧
      ∃ f, s.traversal.containment = some f ∧ f.selects g.kind := by
  rw [← h.mem_leaving_forward_iff, containing]
  cases s.traversal.containment with
  | none => simp
  | some f =>
    simp only [List.mem_filter, Bool.and_eq_true, Bool.not_eq_true', bne_iff_ne,
      Option.some.injEq, exists_eq_left', and_assoc]
    exact and_congr_right fun _ => and_congr_right fun _ => and_comm

theorem IsOver.contains_iff (h : s.IsOver db config) : s.Contains category e x ↔
    x.kind.category ≠ category ∧ ∃ f, s.traversal.containment = some f ∧
      ∃ g, db.Stores g ∧ g.near.id = e.id ∧ g.far = x ∧ f.selects g.kind := by
  rw [Contains, contents_eq_map, List.mem_map]
  constructor
  · rintro ⟨g, hg, rfl⟩
    obtain ⟨⟨hstored, hnear⟩, hcategory, f, hf, hkind⟩ := h.mem_containing_iff.mp hg
    exact ⟨hcategory, f, hf, g, hstored, hnear, rfl, hkind⟩
  · rintro ⟨hcategory, f, hf, g, hstored, hnear, rfl, hkind⟩
    exact ⟨g, h.mem_containing_iff.mpr ⟨⟨hstored, hnear⟩, hcategory, f, hf, hkind⟩, rfl⟩

theorem IsOver.stored_of_contains (h : s.IsOver db config) (hx : s.Contains category e x) :
    x ∈ db.entities := by
  obtain ⟨-, f, -, g, hg, -, rfl, -⟩ := h.contains_iff.mp hx
  exact hg.far

/-! ### The walk -/

/-- What a walk from `root` has visited and what it has only found: distinct stored entities that
containment reaches, among which is everything that a visited one contains. -/
structure IsWalk (s : Session) (db : Database) (category : String) (root : Entity)
    (done pending : List Entity) : Prop where
  nodup : ((done ++ pending).map (·.id)).Nodup
  stored : ∀ x ∈ done ++ pending, x ∈ db.entities
  reached : ∀ x ∈ done ++ pending, Relation.ReflTransGen (s.Contains category) root x
  closed : ∀ x ∈ done, ∀ y, s.Contains category x y → y ∈ done ++ pending
  starts : root ∈ done ++ pending

/-- What `e` contains and has not been found. -/
def fresh (s : Session) (category : String) (found : List Entity) (e : Entity) : List Entity :=
  firstOfKey Entity.id (found.map (·.id)) (s.contents category e)

theorem contains_of_mem_fresh {found : List Entity} (hx : x ∈ s.fresh category found e) :
    s.Contains category e x :=
  (firstOfKey_sublist _ _ _).mem hx

theorem mem_of_contains (h : s.IsOver db config) {found : List Entity}
    (hfound : ∀ y ∈ found, y ∈ db.entities) (hx : s.Contains category e x) :
    x ∈ found ∨ x ∈ s.fresh category found e := by
  have hstored := h.stored_of_contains hx
  -- the walk compares numbers, and a stored entity is determined by its number
  by_cases hseen : x.id ∈ found.map (·.id)
  · obtain ⟨y, hy, heq⟩ := List.mem_map.mp hseen
    exact Or.inl (h.holds.eq_of_id_eq (hfound y hy) hstored heq ▸ hy)
  · obtain ⟨y, hy, heq⟩ := exists_mem_firstOfKey hx hseen
    have hystored := h.stored_of_contains (contains_of_mem_fresh hy)
    exact Or.inr (h.holds.eq_of_id_eq hystored hstored heq ▸ hy)

/-- A visit moves the entity to the visited ones and adds what it contains to the pending ones. -/
theorem IsWalk.visit (h : s.IsOver db config)
    (hwalk : s.IsWalk db category root done (e :: pending)) :
    s.IsWalk db category root (done ++ [e])
      (pending ++ s.fresh category (done ++ e :: pending) e) := by
  -- together both parts are what they were before, followed by what is new
  have hsplit : (done ++ [e]) ++ (pending ++ s.fresh category (done ++ e :: pending) e) =
      (done ++ e :: pending) ++ s.fresh category (done ++ e :: pending) e := by simp
  have he : e ∈ done ++ e :: pending := by simp
  constructor
  case nodup =>
    rw [hsplit, List.map_append, List.nodup_append']
    refine ⟨hwalk.nodup, nodup_map_firstOfKey _ _ _, List.disjoint_right.mpr fun id hid => ?_⟩
    obtain ⟨y, hy, rfl⟩ := List.mem_map.mp hid
    exact key_notMem_of_mem_firstOfKey hy
  case stored =>
    intro x hx
    rw [hsplit, List.mem_append] at hx
    rcases hx with hx | hx
    · exact hwalk.stored x hx
    · exact h.stored_of_contains (contains_of_mem_fresh hx)
  case reached =>
    intro x hx
    rw [hsplit, List.mem_append] at hx
    rcases hx with hx | hx
    · exact hwalk.reached x hx
    · exact (hwalk.reached e he).tail (contains_of_mem_fresh hx)
  case closed =>
    intro x hx y hxy
    rw [hsplit, List.mem_append]
    rcases List.mem_append.mp hx with hx | hx
    · exact Or.inl (hwalk.closed x hx y hxy)
    · obtain rfl := List.mem_singleton.mp hx
      exact mem_of_contains h hwalk.stored hxy
  case starts =>
    rw [hsplit]
    exact List.mem_append_left _ hwalk.starts

theorem IsWalk.length_le (h : s.IsOver db config)
    (hwalk : s.IsWalk db category root done pending) :
    done.length + pending.length ≤ s.catalog.size := by
  have hsub : (done ++ pending).Subperm db.entities :=
    List.subperm_of_subset (hwalk.nodup.of_map _) hwalk.stored
  rw [h.holds.size_eq, ← List.length_append]
  exact hsub.length_le

/-- One visit: the first of the pending entities is done, and what it contains and has not been
found is pending. -/
inductive Visits (s : Session) (category : String) :
    List Entity × List Entity → List Entity × List Entity → Prop
  | visit (done : List Entity) (e : Entity) (pending : List Entity) :
      Visits s category (done, e :: pending)
        (done ++ [e], pending ++ s.fresh category (done ++ e :: pending) e)

theorem IsWalk.of_visits (h : s.IsOver db config) (hwalk : s.IsWalk db category root done pending)
    {lists : List Entity × List Entity}
    (hvisits : Relation.ReflTransGen (s.Visits category) (done, pending) lists) :
    s.IsWalk db category root lists.1 lists.2 := by
  induction hvisits with
  | refl => exact hwalk
  | tail _ hvisit ih =>
    cases hvisit
    exact ih.visit h

/-- With a visit for every entity that has not been visited, the walk visits all it finds. -/
theorem visits_gather (h : s.IsOver db config) (n : Nat)
    (hwalk : s.IsWalk db category root done pending)
    (hfuel : s.catalog.size ≤ done.length + n) :
    Relation.ReflTransGen (s.Visits category) (done, pending)
      (s.gather category n pending (done ++ pending), []) := by
  -- the bound on the visits left carries the induction: one visit uses up one unit of fuel
  induction n generalizing done pending with
  | zero =>
    have hlength := hwalk.length_le h
    have hpending : pending = [] := List.eq_nil_of_length_eq_zero (by omega)
    subst hpending
    rw [gather, List.append_nil]
  | succ n ih =>
    cases pending with
    | nil => simp [gather, Relation.ReflTransGen.refl]
    | cons e pending =>
      have hnext := ih (hwalk.visit h) (by rw [List.length_append, List.length_singleton]; omega)
      refine .head (.visit done e pending) ?_
      rw [gather]
      simpa [fresh] using hnext

/-! ### Members -/

theorem isWalk_root (hroot : root ∈ db.entities) :
    s.IsWalk db root.kind.category root [] [root] := by
  refine ⟨by simp, by simpa using hroot, ?_, by simp, by simp⟩
  intro x hx
  obtain rfl := List.mem_singleton.mp hx
  exact .refl

namespace IsOver

/-- The visits that begin with the root come to an end, and then the members have been visited. -/
theorem visits_members (h : s.IsOver db config) (hroot : root ∈ db.entities) :
    Relation.ReflTransGen (s.Visits root.kind.category) ([], [root]) (s.members root, []) :=
  visits_gather h _ (isWalk_root hroot) (by simp)

theorem isWalk_members (h : s.IsOver db config) (hroot : root ∈ db.entities) :
    s.IsWalk db root.kind.category root (s.members root) [] :=
  (isWalk_root hroot).of_visits h (h.visits_members hroot)

theorem nodup_id_members (h : s.IsOver db config) (hroot : root ∈ db.entities) :
    ((s.members root).map (·.id)).Nodup := by
  simpa using (h.isWalk_members hroot).nodup

theorem stored_of_mem_members (h : s.IsOver db config) (hroot : root ∈ db.entities)
    (hx : x ∈ s.members root) : x ∈ db.entities :=
  (h.isWalk_members hroot).stored x (List.mem_append_left _ hx)

/-- The members are what containment reaches. -/
theorem mem_members_iff (h : s.IsOver db config) (hroot : root ∈ db.entities) :
    x ∈ s.members root ↔ Relation.ReflTransGen (s.Contains root.kind.category) root x := by
  have hwalk := h.isWalk_members hroot
  refine ⟨fun hx => hwalk.reached x (by simpa using hx), fun hpath => ?_⟩
  -- nothing is pending any more, so what a member contains is a member
  induction hpath with
  | refl => simpa using hwalk.starts
  | tail _ hstep ih => simpa using hwalk.closed _ ih _ hstep

end IsOver

end Session

end CodeGraph
