import CodeGraph.Proofs.Session.Edges
import CodeGraph.Proofs.Storage.Edges

/-!
# Sessions over reordered databases

Two sessions over the same content hold one catalogue. For every entity they list edges that are
alike in place, except that the order of what arrives may differ among edges of one location and
relation.

## Main definitions

* `Database.IsReordered` — the same content in another order
* `Session.IsAlike` — what two sessions over the same content have in common

## Main results

* `Session.IsOver.isAlike` — sessions over reordered databases are alike
-/

namespace CodeGraph

/-- The database `db'` has the content of `db`, its entities and references in any order. -/
structure Database.IsReordered (db db' : Database) : Prop where
  name : db.name = db'.name
  languages : db.languages = db'.languages
  entities : db.entities.Perm db'.entities
  references : db.references.Perm db'.references
  tokensOf : db.tokensOf = db'.tokensOf
  isUnresolved : db.isUnresolved = db'.isUnresolved
  isOpen : db.isOpen = db'.isOpen

namespace Session

variable {s s' : Session} {db db' : Database} {config : Config} {id : EntityId}

/-- The sessions hold the same, apart from the numbers of edges, and from the order of edges that
arrive from one place. -/
structure IsAlike (s s' : Session) : Prop where
  name : s.database.name = s'.database.name
  languages : s.database.languages = s'.database.languages
  tokensOf : s.database.tokensOf = s'.database.tokensOf
  isUnresolved : s.database.isUnresolved = s'.database.isUnresolved
  isOpen : s.database.isOpen = s'.database.isOpen
  traversal : s.traversal = s'.traversal
  catalog : s.catalog = s'.catalog
  /-- Also the edges of one direction are alike in place. -/
  leaving : ∀ id (p : Direction → Bool),
    ((s.index.leaving id).filter (p ·.direction)).map Edge.seen =
      ((s'.index.leaving id).filter (p ·.direction)).map Edge.seen
  arriving : ∀ id (p : Edge → Bool),
    ((s.index.arriving id).filter (p ·.seen)).map Edge.arrival =
      ((s'.index.arriving id).filter (p ·.seen)).map Edge.arrival
  arriving_perm : ∀ id, ((s.index.arriving id).map Edge.seen).Perm
    ((s'.index.arriving id).map Edge.seen)

namespace IsOver

theorem catalog_eq (hdb : db.IsReordered db') (h : s.IsOver db config)
    (h' : s'.IsOver db' config) : s.catalog = s'.catalog := by
  have hcatalog := Catalog.ofEntities_congr hdb.entities h.holds.nodup_id
  rw [h.catalog, h'.catalog] at hcatalog
  exact Except.ok.inj hcatalog

/-- The storage order shows in the numbers of the forward edges only. -/
theorem exists_forward_perm (hdb : db.IsReordered db') (h : s.IsOver db config)
    (h' : s'.IsOver db' config) : ∃ forward forward', s.index = EdgeIndex.ofForward forward ∧
      s'.index = EdgeIndex.ofForward forward' ∧
      (forward.map Edge.unnumbered).Perm (forward'.map Edge.unnumbered) := by
  obtain ⟨forward, hforward, hindex⟩ := EdgeIndex.ofReferences_eq_ok_iff.mp h.index
  obtain ⟨forward', hforward', hindex'⟩ := EdgeIndex.ofReferences_eq_ok_iff.mp h'.index
  rw [← catalog_eq hdb h h'] at hforward'
  exact ⟨forward, forward', hindex, hindex',
    EdgeIndex.perm_unnumbered_forwardEdges h.holds hdb.references hforward hforward'⟩

theorem endsIn_of_mem_leaving (h : s.IsOver db config) {e : Edge} (he : e ∈ s.index.leaving id) :
    e.EndsIn db.entities := by
  obtain ⟨-, f, hf, rfl | rfl⟩ := h.mem_leaving_iff.mp he
  · exact ⟨hf.far, hf.file⟩
  · exact ⟨hf.near, hf.file⟩

theorem endsIn_of_mem_arriving (h : s.IsOver db config) {e : Edge}
    (he : e ∈ s.index.arriving id) : e.EndsIn db.entities := by
  obtain ⟨hf, -⟩ := h.mem_arriving_iff.mp he
  exact ⟨hf.far, hf.file⟩

theorem near_mem_of_mem_leaving (h : s.IsOver db config) {e : Edge}
    (he : e ∈ s.index.leaving id) : e.near ∈ db.entities := by
  obtain ⟨-, f, hf, rfl | rfl⟩ := h.mem_leaving_iff.mp he
  · exact hf.near
  · exact hf.far

/-- Sublists of lists by location that are alike in any order are alike in place. -/
theorem map_arrival_eq (hdb : db.IsReordered db') (h : s.IsOver db config) {xs ys : List Edge}
    (hx : xs.Pairwise Edge.Before) (hy : ys.Pairwise Edge.Before)
    (hxs : ∀ e ∈ xs, e.EndsIn db.entities) (hys : ∀ e ∈ ys, e.EndsIn db'.entities)
    (hperm : (xs.map Edge.unnumbered).Perm (ys.map Edge.unnumbered)) :
    xs.map Edge.arrival = ys.map Edge.arrival := by
  refine Edge.map_arrival_eq_of_perm h.holds.nodup_id (hx.imp Edge.Before.inOrder)
    (hy.imp Edge.Before.inOrder) hxs ?_ ?_
  · intro e he
    exact ⟨hdb.entities.mem_iff.mpr (hys e he).1, hdb.entities.mem_iff.mpr (hys e he).2⟩
  · have harrival := hperm.map Edge.arrival
    rw [List.map_map, List.map_map] at harrival
    exact harrival

theorem leaving_alike (hdb : db.IsReordered db') (h : s.IsOver db config)
    (h' : s'.IsOver db' config) (id : EntityId) (p : Direction → Bool) :
    ((s.index.leaving id).filter (p ·.direction)).map Edge.seen =
      ((s'.index.leaving id).filter (p ·.direction)).map Edge.seen := by
  obtain ⟨forward, forward', hindex, hindex', hperm⟩ := exists_forward_perm hdb h h'
  have hleaving : ((s.index.leaving id).map Edge.unnumbered).Perm
      ((s'.index.leaving id).map Edge.unnumbered) := by
    rw [hindex, hindex']
    exact EdgeIndex.perm_leaving hperm id
  -- the near end of all these edges is the entity itself, so nothing but the number is lost
  refine Edge.map_seen_eq_of_near ?_ (map_arrival_eq hdb h ?_ ?_ ?_ ?_ ?_)
  · intro a ha b hb
    have ha := (List.mem_filter.mp ha).1
    have hb := (List.mem_filter.mp hb).1
    refine h.holds.eq_of_id_eq (h.near_mem_of_mem_leaving ha)
      (hdb.entities.mem_iff.mpr (h'.near_mem_of_mem_leaving hb)) ?_
    exact (h.mem_leaving_iff.mp ha).1.trans (h'.mem_leaving_iff.mp hb).1.symm
  · exact (h.pairwise_leaving id).filter _
  · exact (h'.pairwise_leaving id).filter _
  · exact fun e he => h.endsIn_of_mem_leaving (List.mem_filter.mp he).1
  · exact fun e he => h'.endsIn_of_mem_leaving (List.mem_filter.mp he).1
  · have hfilter := hleaving.filter (p ·.direction)
    rw [List.filter_map, List.filter_map] at hfilter
    exact hfilter

theorem arriving_perm_unnumbered (hdb : db.IsReordered db') (h : s.IsOver db config)
    (h' : s'.IsOver db' config) (id : EntityId) :
    ((s.index.arriving id).map Edge.unnumbered).Perm
      ((s'.index.arriving id).map Edge.unnumbered) := by
  obtain ⟨forward, forward', hindex, hindex', hperm⟩ := exists_forward_perm hdb h h'
  rw [hindex, hindex']
  exact EdgeIndex.perm_arriving hperm id

theorem arriving_alike (hdb : db.IsReordered db') (h : s.IsOver db config)
    (h' : s'.IsOver db' config) (id : EntityId) (p : Edge → Bool) :
    ((s.index.arriving id).filter (p ·.seen)).map Edge.arrival =
      ((s'.index.arriving id).filter (p ·.seen)).map Edge.arrival := by
  refine map_arrival_eq hdb h ?_ ?_ ?_ ?_ ?_
  · exact (h.pairwise_arriving id).filter _
  · exact (h'.pairwise_arriving id).filter _
  · exact fun e he => h.endsIn_of_mem_arriving (List.mem_filter.mp he).1
  · exact fun e he => h'.endsIn_of_mem_arriving (List.mem_filter.mp he).1
  · have hfilter := (arriving_perm_unnumbered hdb h h' id).filter (p ·.seen)
    rw [List.filter_map, List.filter_map] at hfilter
    exact hfilter

/-- Sessions over reordered databases are alike. -/
theorem isAlike (hdb : db.IsReordered db') (h : s.IsOver db config) (h' : s'.IsOver db' config) :
    s.IsAlike s' := by
  constructor
  case name => rw [h.database, h'.database, hdb.name]
  case languages => rw [h.database, h'.database, hdb.languages]
  case tokensOf => rw [h.database, h'.database, hdb.tokensOf]
  case isUnresolved => rw [h.database, h'.database, hdb.isUnresolved]
  case isOpen => rw [h.database, h'.database, hdb.isOpen]
  case traversal => exact Except.ok.inj (h.traversal.symm.trans h'.traversal)
  case catalog => exact catalog_eq hdb h h'
  case leaving => exact leaving_alike hdb h h'
  case arriving => exact arriving_alike hdb h h'
  case arriving_perm =>
    intro id
    have hseen := (arriving_perm_unnumbered hdb h h' id).map Edge.seen
    rw [List.map_map, List.map_map] at hseen
    exact hseen

end IsOver

end Session

end CodeGraph
