import CodeGraph.Proofs.Membership
import CodeGraph.Proofs.Session.Evaluation

/-!
# The order of members

After the root, the members are the first occurrences in the list of what the members contain, one
member after the other: the walk visits the entities in the order in which it finds them. This
equation decides where a member stands. An entity found earlier than another one has been found
from an earlier member, or from the same one through an earlier edge, and so a path to it need not
be longer.

## Main definitions

* `GraphConfig.Contains` — the settings take a relation for containment
* `Database.Leads` — a path of a number of edges leads from the root to an entity
* `Database.IsBreadthFirst` — a list of what paths lead to, ordered by the lengths of these paths

## Main results

* `Session.IsOver.members_eq` — the members by what they contain
* `Session.members_breadth_first` — the members are found breadth first, in finitely many visits
-/

namespace CodeGraph

/-! ### Paths of containment -/

/-- The settings take the relation for containment. A blank filter takes none. -/
def GraphConfig.Contains (c : GraphConfig) (k : Kind) : Prop :=
  ∃ f, KindFilter.parse c.containment = .ok f ∧ ¬ f.isAll ∧ f.selects k

namespace Database

/-- A stored edge by which `e` contains `x`, whose category is not that of the root. -/
structure Joins (db : Database) (config : Config) (root e x : Entity) (g : Edge) : Prop where
  stored : db.Stores g
  contains : config.graph.Contains g.kind
  near : g.near = e
  far : g.far = x
  category_ne : x.kind.category ≠ root.kind.category

/-- A path of `n` edges leads from the root to the entity. -/
inductive Leads (db : Database) (config : Config) (root : Entity) : Nat → Entity → Prop
  | root : Leads db config root 0 root
  | edge {n : Nat} {e x : Entity} {g : Edge} :
      Leads db config root n e → db.Joins config root e x g → Leads db config root (n + 1) x

/-- The shortest path to the entity has `n` edges. -/
structure IsDistance (db : Database) (config : Config) (root : Entity) (n : Nat) (x : Entity) :
    Prop where
  leads : db.Leads config root n x
  least : ∀ m, db.Leads config root m x → n ≤ m

/-- The first of the listed entities that contain `x` is `p`. -/
structure IsPredecessor (db : Database) (config : Config) (root : Entity) (order : List Entity)
    (p x : Entity) : Prop where
  mem : p ∈ order
  joins : ∃ g, db.Joins config root p x g
  first : ∀ q ∈ order, (∃ g, db.Joins config root q x g) → order.idxOf p ≤ order.idxOf q

/-- The list begins with the root and holds exactly what paths lead to, without repetition: what is
nearer comes earlier, the predecessors come in order, and what has the same predecessor comes in the
order of its edges. -/
structure IsBreadthFirst (db : Database) (config : Config) (root : Entity) (order : List Entity) :
    Prop where
  head : order.head? = some root
  nodup : (order.map (·.id)).Nodup
  mem_iff : ∀ x, x ∈ order ↔ ∃ n, db.Leads config root n x
  levels : order.Pairwise fun x y =>
    ∀ m n, db.IsDistance config root m x → db.IsDistance config root n y → m ≤ n
  queued : order.Pairwise fun x y => ∀ p q, db.IsPredecessor config root order p x →
    db.IsPredecessor config root order q y → order.idxOf p ≤ order.idxOf q
  siblings : order.Pairwise fun x y => ∀ p, db.IsPredecessor config root order p x →
    db.IsPredecessor config root order p y →
      ∀ g', db.Joins config root p y g' → ∃ g, db.Joins config root p x g ∧ g.Before g'

end Database

namespace Session

variable {s : Session} {db : Database} {config : Config} {category : String}
  {root e x y : Entity} {g g' : Edge} {n : Nat}

/-! ### Containment by edges -/

namespace IsOver

theorem mem_containing_iff_joins (h : s.IsOver db config) (he : e ∈ db.entities) :
    g ∈ s.containing root.kind.category e ↔ db.Joins config root e g.far g := by
  obtain ⟨-, -, hcontainment, -⟩ := Traversal.ofConfig_eq_ok_iff.mp h.traversal
  have hcontains : config.graph.Contains g.kind ↔
      ∃ f, s.traversal.containment = some f ∧ f.selects g.kind :=
    Traversal.exists_selects_iff hcontainment g.kind
  rw [h.mem_containing_iff, ← hcontains]
  constructor
  · intro ⟨⟨hg, hnear⟩, hcategory, hkind⟩
    exact ⟨hg, hkind, h.holds.eq_of_id_eq hg.near he hnear, rfl, hcategory⟩
  · intro hjoins
    exact ⟨⟨hjoins.stored, congrArg Entity.id hjoins.near⟩, hjoins.category_ne, hjoins.contains⟩

theorem pairwise_containing (h : s.IsOver db config) (category : String) (e : Entity) :
    (s.containing category e).Pairwise Edge.Before := by
  unfold containing
  cases s.traversal.containment with
  | none => exact List.Pairwise.nil
  | some f => exact (h.pairwise_leaving e.id).filter _

theorem contains_iff_exists_joins (h : s.IsOver db config) (he : e ∈ db.entities) :
    s.Contains root.kind.category e x ↔ ∃ g, db.Joins config root e x g := by
  rw [Contains, contents_eq_map, List.mem_map]
  constructor
  · rintro ⟨g, hg, rfl⟩
    exact ⟨g, (h.mem_containing_iff_joins he).mp hg⟩
  · rintro ⟨g, hg⟩
    obtain rfl := hg.far
    exact ⟨g, (h.mem_containing_iff_joins he).mpr hg, rfl⟩

/-- What stands in the contents before the far end of an edge is joined by an earlier edge. -/
theorem exists_contents_eq (h : s.IsOver db config) (he : e ∈ db.entities)
    (hg' : db.Joins config root e y g') :
    ∃ before after, s.contents root.kind.category e = before ++ y :: after ∧
      ∀ x ∈ before, ∃ g, db.Joins config root e x g ∧ g.Before g' := by
  obtain rfl := hg'.far
  obtain ⟨before, after, hsplit⟩ := List.append_of_mem ((h.mem_containing_iff_joins he).mpr hg')
  refine ⟨before.map (·.far), after.map (·.far), ?_, fun x hx => ?_⟩
  · rw [contents_eq_map, hsplit, List.map_append, List.map_cons]
  · obtain ⟨g, hg, rfl⟩ := List.mem_map.mp hx
    have hordered := h.pairwise_containing root.kind.category e
    rw [hsplit] at hordered
    have hmem : g ∈ s.containing root.kind.category e := hsplit ▸ List.mem_append_left _ hg
    exact ⟨g, (h.mem_containing_iff_joins he).mp hmem,
      (List.pairwise_append.mp hordered).2.2 g hg g' List.mem_cons_self⟩

/-- The members are what paths of containment lead to. -/
theorem mem_members_iff_leads (h : s.IsOver db config) (hroot : root ∈ db.entities) :
    x ∈ s.members root ↔ ∃ n, db.Leads config root n x := by
  constructor
  · rw [h.mem_members_iff hroot]
    intro hpath
    induction hpath with
    | refl => exact ⟨0, .root⟩
    | tail hpath hstep ih =>
      obtain ⟨n, hn⟩ := ih
      have hstored := h.stored_of_mem_members hroot ((h.mem_members_iff hroot).mpr hpath)
      obtain ⟨g, hg⟩ := (h.contains_iff_exists_joins hstored).mp hstep
      exact ⟨n + 1, hn.edge hg⟩
  · intro ⟨n, hn⟩
    rw [h.mem_members_iff hroot]
    induction hn with
    | root => exact .refl
    | edge _ hg ih =>
      have hstored := hg.near ▸ hg.stored.near
      exact ih.tail ((h.contains_iff_exists_joins hstored).mpr ⟨_, hg⟩)

end IsOver

/-! ### The order of the walk -/

/-- A visit keeps the equation between what has been found and what has been visited. -/
theorem Visits.found_eq {lists lists' : List Entity × List Entity}
    (hvisit : s.Visits category lists lists')
    (h : lists.1 ++ lists.2 = root :: firstOfKey Entity.id [root.id]
      (lists.1.flatMap (s.contents category))) :
    lists'.1 ++ lists'.2 = root :: firstOfKey Entity.id [root.id]
      (lists'.1.flatMap (s.contents category)) := by
  obtain ⟨done, e, pending⟩ := hvisit
  -- what has been seen when `e` is visited are the root and the first occurrences so far
  have hids : (done ++ e :: pending).map (·.id) = [root.id] ++
      (firstOfKey Entity.id [root.id] (done.flatMap (s.contents category))).map (·.id) := by
    rw [h]
    rfl
  calc done ++ [e] ++ (pending ++ s.fresh category (done ++ e :: pending) e)
      = (done ++ e :: pending) ++ s.fresh category (done ++ e :: pending) e := by simp
    _ = root :: (firstOfKey Entity.id [root.id] (done.flatMap (s.contents category)) ++
          s.fresh category (done ++ e :: pending) e) := by rw [h, List.cons_append]
    _ = root :: firstOfKey Entity.id [root.id]
          ((done ++ [e]).flatMap (s.contents category)) := by
      rw [List.flatMap_append, firstOfKey_append, List.flatMap_singleton, fresh, hids]

namespace IsOver

/-- After the root, the members are the first occurrences among what the members contain. -/
theorem members_eq (h : s.IsOver db config) (hroot : root ∈ db.entities) :
    s.members root = root :: firstOfKey Entity.id [root.id]
      ((s.members root).flatMap (s.contents root.kind.category)) := by
  have hfound : ∀ lists, Relation.ReflTransGen (s.Visits root.kind.category) ([], [root]) lists →
      lists.1 ++ lists.2 = root :: firstOfKey Entity.id [root.id]
        (lists.1.flatMap (s.contents root.kind.category)) := by
    intro lists hvisits
    induction hvisits with
    | refl => rfl
    | tail _ hvisit ih => exact hvisit.found_eq ih
  simpa using hfound _ (h.visits_members hroot)

theorem nodup_members (h : s.IsOver db config) (hroot : root ∈ db.entities) :
    (s.members root).Nodup :=
  (h.nodup_id_members hroot).of_map _

/-- A member occurs, among what the members contain, before a later member does. -/
theorem pairwise_occurrence (h : s.IsOver db config) (hroot : root ∈ db.entities) :
    (s.members root).Pairwise fun x y => x ≠ root →
      ∀ before after, (s.members root).flatMap (s.contents root.kind.category) =
        before ++ y :: after → x ∈ before := by
  have hpairs := pairwise_firstOfKey Entity.id [root.id]
    ((s.members root).flatMap (s.contents root.kind.category))
  have hearlier : (root :: firstOfKey Entity.id [root.id]
      ((s.members root).flatMap (s.contents root.kind.category))).Pairwise fun x y => x ≠ root →
        ∀ before after, (s.members root).flatMap (s.contents root.kind.category) =
          before ++ y :: after → x ∈ before := by
    refine List.pairwise_cons.mpr ⟨fun _ _ hne => absurd rfl hne, hpairs.imp ?_⟩
    intro x y hxy _
    exact hxy
  rwa [← h.members_eq hroot] at hearlier

/-- A member that comes before another one has been found from an earlier entity than it, or through
an earlier edge. -/
theorem pairwise_members (h : s.IsOver db config) (hroot : root ∈ db.entities) :
    (s.members root).Pairwise fun x y => x ≠ root →
      ∀ q ∈ s.members root, ∀ g', db.Joins config root q y g' →
        (∃ p ∈ s.members root, (s.members root).idxOf p < (s.members root).idxOf q ∧
          ∃ g, db.Joins config root p x g) ∨
        ∃ g, db.Joins config root q x g ∧ g.Before g' := by
  refine (h.pairwise_occurrence hroot).imp fun {x y} hxy hne q hq g' hg' => ?_
  obtain ⟨before, after, hcontents, hbefore⟩ :=
    h.exists_contents_eq (h.stored_of_mem_members hroot hq) hg'
  obtain ⟨earlier, later, hsplit⟩ := List.append_of_mem hq
  -- `x` occurs before `y` does among the contents of `q`
  have hx : x ∈ earlier.flatMap (s.contents root.kind.category) ++ before := by
    refine hxy hne _ (after ++ later.flatMap (s.contents root.kind.category)) ?_
    rw [hsplit, List.flatMap_append, List.flatMap_cons, hcontents]
    simp
  rcases List.mem_append.mp hx with hx | hx
  · obtain ⟨p, hp, hcontains⟩ := List.mem_flatMap.mp hx
    have hmem : p ∈ s.members root := hsplit ▸ List.mem_append_left _ hp
    refine Or.inl ⟨p, hmem, ?_, ?_⟩
    · have hnodup := h.nodup_members hroot
      rw [hsplit] at hnodup ⊢
      exact idxOf_lt_idxOf hnodup hp
    · exact (h.contains_iff_exists_joins (h.stored_of_mem_members hroot hmem)).mp hcontains
  · exact Or.inr (hbefore x hx)

/-- To a member that comes before the end of a path leads a path that is not longer. -/
theorem exists_leads_le (h : s.IsOver db config) (hroot : root ∈ db.entities)
    (hy : db.Leads config root n y) (hlt : (s.members root).idxOf x < (s.members root).idxOf y) :
    ∃ m ≤ n, db.Leads config root m x := by
  -- induction on the path to `y`: the entity before `x` comes no later than the one before `y`
  induction hy generalizing x with
  | root =>
    have hfirst : (s.members root).idxOf root = 0 := by
      rw [h.members_eq hroot, List.idxOf_cons_self]
    omega
  | @edge n q y g' hq hg' ih =>
    -- only the root is a member that no member contains
    by_cases hx : x = root
    · exact ⟨0, Nat.zero_le _, hx ▸ .root⟩
    · have hqmem : q ∈ s.members root := (h.mem_members_iff_leads hroot).mpr ⟨n, hq⟩
      have hymem : y ∈ s.members root := (h.mem_members_iff_leads hroot).mpr ⟨n + 1, hq.edge hg'⟩
      rcases rel_of_idxOf_lt (h.pairwise_members hroot) hymem hlt hx q hqmem g' hg' with
        ⟨p, -, hpq, g, hg⟩ | ⟨g, hg, -⟩
      · obtain ⟨m, hm, hp⟩ := ih hpq
        exact ⟨m + 1, Nat.succ_le_succ hm, hp.edge hg⟩
      · exact ⟨n + 1, le_rfl, hq.edge hg⟩

theorem isBreadthFirst_members (h : s.IsOver db config) (hroot : root ∈ db.entities) :
    db.IsBreadthFirst config root (s.members root) := by
  have hpairs := h.pairwise_members hroot
  -- what has a predecessor is not the root, which is of its own category
  have hne {p x : Entity} (hx : db.IsPredecessor config root (s.members root) p x) : x ≠ root := by
    obtain ⟨g, hg⟩ := hx.joins
    rintro rfl
    exact hg.category_ne rfl
  constructor
  case head => rw [h.members_eq hroot, List.head?_cons]
  case nodup => exact h.nodup_id_members hroot
  case mem_iff => exact fun x => h.mem_members_iff_leads hroot
  case levels =>
    -- the shortest path to the later one bounds a path to the earlier one
    refine (pairwise_idxOf (h.nodup_members hroot)).imp fun hlt m n hm hn => ?_
    obtain ⟨m', hle, hleads⟩ := h.exists_leads_le hroot hn.leads hlt
    exact (hm.least m' hleads).trans hle
  case queued =>
    refine hpairs.imp fun hxy p q hp hq => ?_
    obtain ⟨g', hg'⟩ := hq.joins
    rcases hxy (hne hp) q hq.mem g' hg' with ⟨p', hp', hlt, hjoins⟩ | ⟨g, hg, -⟩
    · exact (hp.first p' hp' hjoins).trans hlt.le
    · exact hp.first q hq.mem ⟨g, hg⟩
  case siblings =>
    refine hpairs.imp fun hxy p hpx hpy g' hg' => ?_
    rcases hxy (hne hpx) p hpx.mem g' hg' with ⟨p', hp', hlt, hjoins⟩ | hearlier
    · -- no member before the predecessor contains `x`
      exact absurd hlt (hpx.first p' hp' hjoins).not_gt
    · exact hearlier

theorem members_of_blank (h : s.IsOver db config) (hroot : root ∈ db.entities)
    (hblank : config.graph.containment.toList.all Text.isBlank) : s.members root = [root] := by
  obtain ⟨-, -, hcontainment, -⟩ := Traversal.ofConfig_eq_ok_iff.mp h.traversal
  obtain ⟨f, hf, hoptional⟩ := Traversal.optional_eq_ok_iff.mp hcontainment
  have hall : f = KindFilter.all := by
    rw [KindFilter.parse, if_pos hblank] at hf
    exact (Except.ok.inj hf).symm
  have hnone : s.traversal.containment = none := hoptional.trans (by rw [hall]; rfl)
  have hempty : (s.members root).flatMap (s.contents root.kind.category) = [] := by
    refine List.flatMap_eq_nil_iff.mpr fun e _ => ?_
    rw [contents, hnone]
  rw [h.members_eq hroot, hempty]
  rfl

end IsOver

/-- The members are the root and what containment leads to from it, each once, breadth first and by
the location of edges. The walk that finds them comes to an end. If the filter of the settings is
blank, the root is the only one. -/
theorem members_breadth_first (h : start db config = .ok s) (hroot : root ∈ db.entities) :
    db.IsBreadthFirst config root (s.members root) ∧
    Relation.ReflTransGen (s.Visits root.kind.category) ([], [root]) (s.members root, []) ∧
    (config.graph.containment.toList.all Text.isBlank → s.members root = [root]) := by
  have hover := start_eq_ok_iff.mp h
  exact ⟨hover.isBreadthFirst_members hroot, hover.visits_members hroot,
    hover.members_of_blank hroot⟩

/-! ### Containment that goes round -/

namespace Nest

open Sample (entity file)

def package : Entity := entity 2 "p" "p" "Package"

def inner : Entity := entity 3 "q" "p.q" "Package"

def left : Entity := entity 4 "A" "p.A" "Class"

def right : Entity := entity 5 "B" "p.B" "Class"

def shared : Entity := entity 6 "m" "p.m" "Method"

end Nest

open Nest Sample in
/-- Two classes of a package have a method in common, in which the first of them is defined again.
The package contains itself and another package. -/
def nest : Database where
  name := "nest"
  languages := []
  entities := [file, package, inner, left, right, shared]
  references := [reference package package "Define" 1, reference package inner "Define" 2,
    reference package right "Define" 3, reference package left "Define" 4,
    reference left shared "Define" 5, reference right shared "Define" 6,
    reference shared left "Define" 7, reference inner shared "Define" 8,
    reference file package "Define" 9]
  tokensOf _ := none
  isUnresolved _ := false
  isOpen := true

theorem exists_start_nest : ∃ s, start nest {} = .ok s :=
  exists_start_iff.mpr ⟨rfl, ⟨_, rfl⟩, by decide, by unfold Reference.IsKnown; decide⟩

open Nest in
/-- The classes come in the order in which the package defines them, then their method. -/
theorem members_breadth_first_nest : ∃ s, start nest {} = .ok s ∧ package ∈ nest.entities ∧
    s.members package = [package, right, left, shared] ∧
    nest.IsBreadthFirst {} package (s.members package) := by
  obtain ⟨s, hs⟩ := exists_start_nest
  have hroot : package ∈ nest.entities := by simp [nest]
  have hmembers : s.members package = [package, right, left, shared] := by
    have hover := start_eq_ok_iff.mp hs
    rw [hover.eq_evaluated, hover.traversal_eq rfl]
    decide +kernel
  exact ⟨s, hs, hroot, hmembers, (members_breadth_first hs hroot).1⟩

end Session

end CodeGraph
