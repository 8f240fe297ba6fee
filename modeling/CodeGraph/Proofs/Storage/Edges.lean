import CodeGraph.Proofs.Edge.Index

/-!
# Edges without their numbers

Where references are stored shows in the numbers of their edges, and these decide the order of edges
that are tied in everything else. Such edges are alike, apart from the end at which they are filed.
So the lists of an index lose the storage order once the numbers are taken away. The list of what
arrives at an entity is filed under the far end, and its order by location does not look at the near
end: edges of one location and relation that come from different entities stay in storage order.

## Main definitions

* `Edge.seen` — an edge without its number and direction
* `Edge.arrival` — what is seen of an edge apart from its near end

## Main results

* `Edge.map_arrival_eq_of_perm` — sorted edges that are alike in any order are alike in place
* `EdgeIndex.perm_unnumbered_forwardEdges` — the storage order shows in the numbers only
-/

namespace CodeGraph

namespace Edge

variable {a b e : Edge} {es : List Entity} {xs ys : List Edge}

/-- The edge without the number of its reference. -/
def unnumbered (e : Edge) : Edge :=
  { e with record := 0 }

/-- The relation, the ends and the place of an edge. -/
def seen (e : Edge) : Edge :=
  { e with record := 0, direction := .forward }

/-- What is seen of an edge apart from its near end. -/
def arrival (e : Edge) : Edge :=
  { e.seen with near := e.far }

theorem seen_eq_of_arrival_eq (hnear : a.near = b.near) (h : a.arrival = b.arrival) :
    a.seen = b.seen :=
  calc a.seen = { a.arrival with near := a.near } := rfl
    _ = { b.arrival with near := b.near } := by rw [hnear, h]
    _ = b.seen := rfl

theorem isLE_then_of_imp {first second third : Ordering} (h : second.isLE → third.isLE) :
    (first.then second).isLE → (first.then third).isLE := by
  cases first with
  | lt => exact id
  | eq => exact h
  | gt => exact id

/-- The order by location looks at what is seen apart from the near end, and then at the number. -/
theorem inOrder_arrival (h : inOrder a b) : inOrder a.arrival b.arrival := by
  have hnumber : (compare a.arrival.number b.arrival.number).isLE :=
    Std.isLE_compare.mpr (Nat.le_refl 0)
  revert h
  -- each of the six keys before the number is the same with and without near end and number
  iterate 6 apply isLE_then_of_imp
  exact fun _ => hnumber

theorem compareLocation_eq_of_inOrder (hab : inOrder a b) (hba : inOrder b a) :
    compareLocation a b = .eq := by
  have hswap : compareLocation a b = (compareLocation b a).swap := Std.OrientedCmp.eq_swap
  rw [inOrder, hswap] at hab
  rw [inOrder] at hba
  rw [hswap]
  cases hcmp : compareLocation b a <;> rw [hcmp] at hab hba <;> first | rfl | contradiction

/-- The far end and the file of the edge are stored. -/
def EndsIn (es : List Entity) (e : Edge) : Prop :=
  e.far ∈ es ∧ e.file ∈ es

theorem arrival_eq_of_inOrder (hes : (es.map (·.id)).Nodup) (ha : a.EndsIn es) (hb : b.EndsIn es)
    (hab : inOrder a.arrival b.arrival) (hba : inOrder b.arrival a.arrival) :
    a.arrival = b.arrival := by
  obtain ⟨-, hfile, hline, hcolumn, hkind, hfar, -⟩ :=
    compareLocation_eq_iff.mp (compareLocation_eq_of_inOrder hab hba)
  have hfile : a.file = b.file := List.inj_on_of_nodup_map hes ha.2 hb.2 hfile
  have hfar : a.far = b.far := List.inj_on_of_nodup_map hes ha.1 hb.1 hfar
  have hkind : a.kind = b.kind := Kind.ext hkind
  have hposition : a.position = b.position := by
    cases ha : a.position
    cases hb : b.position
    simp only [arrival, seen, ha, hb] at hline hcolumn
    rw [hline, hcolumn]
  simp only [arrival, seen, hfile, hfar, hkind, hposition]

/-- Sorted edges that are alike in any order are alike in place, apart from their near ends. -/
theorem map_arrival_eq_of_perm (hes : (es.map (·.id)).Nodup)
    (hx : xs.Pairwise fun a b => inOrder a b) (hy : ys.Pairwise fun a b => inOrder a b)
    (hxs : ∀ e ∈ xs, e.EndsIn es) (hys : ∀ e ∈ ys, e.EndsIn es)
    (hperm : (xs.map arrival).Perm (ys.map arrival)) : xs.map arrival = ys.map arrival := by
  have hsorted (zs : List Edge) (hz : zs.Pairwise fun a b => inOrder a b) :
      (zs.map arrival).Pairwise fun a b => inOrder a b :=
    List.pairwise_map.mpr (hz.imp inOrder_arrival)
  refine List.Perm.eq_of_pairwise ?_ (hsorted xs hx) (hsorted ys hy) hperm
  intro a b ha hb hab hba
  obtain ⟨x, hx, rfl⟩ := List.mem_map.mp ha
  obtain ⟨y, hy, rfl⟩ := List.mem_map.mp hb
  exact arrival_eq_of_inOrder hes (hxs x hx) (hys y hy) hab hba

/-- Edges that are alike apart from their near ends are alike if these are the same. -/
theorem map_seen_eq_of_near (hnear : ∀ a ∈ xs, ∀ b ∈ ys, a.near = b.near)
    (h : xs.map arrival = ys.map arrival) : xs.map seen = ys.map seen := by
  have hlength : xs.length = ys.length := by simpa using congrArg List.length h
  refine List.ext_getElem (by simpa using hlength) fun i hi hi' => ?_
  rw [List.length_map] at hi hi'
  have harrival := List.getElem_of_eq h (i := i) (by simpa using hi)
  rw [List.getElem_map, List.getElem_map] at harrival ⊢
  exact seen_eq_of_arrival_eq (hnear _ (List.getElem_mem hi) _ (List.getElem_mem hi')) harrival

end Edge

namespace EdgeIndex

variable {c : Catalog} {es : List Entity} {n m : Nat} {r : Reference} {rs rs' : List Reference}
  {e : Edge} {forward forward' : List Edge}

theorem forwardEdge_unnumbered (h : c.Holds es) (hedge : forwardEdge c n r = .ok e) :
    forwardEdge c 0 r = .ok e.unnumbered := by
  rw [forwardEdge_eq_ok_iff h] at hedge ⊢
  obtain ⟨-, ⟨hdirection, hkind, hnear, hfar, hfile, hposition⟩, hstored⟩ := hedge
  exact ⟨rfl, ⟨hdirection, hkind, hnear, hfar, hfile, hposition⟩, hstored⟩

theorem map_unnumbered_forwardEdges (h : c.Holds es)
    (hforward : forwardEdges c n rs = .ok forward) :
    forward.map Edge.unnumbered = rs.filterMap fun r => (forwardEdge c 0 r).toOption := by
  induction rs generalizing n forward with
  | nil =>
    cases hforward
    rfl
  | cons r rs ih =>
    obtain ⟨e, rest, he, hrest, rfl⟩ := forwardEdges_cons_eq_ok_iff.mp hforward
    rw [List.map_cons, ih hrest, List.filterMap_cons, forwardEdge_unnumbered h he]
    rfl

/-- The storage order of the references shows in the numbers of their edges only. -/
theorem perm_unnumbered_forwardEdges (h : c.Holds es) (hperm : rs.Perm rs')
    (hforward : forwardEdges c n rs = .ok forward)
    (hforward' : forwardEdges c m rs' = .ok forward') :
    (forward.map Edge.unnumbered).Perm (forward'.map Edge.unnumbered) := by
  rw [map_unnumbered_forwardEdges h hforward, map_unnumbered_forwardEdges h hforward']
  exact hperm.filterMap _

theorem map_unnumbered_views (forward : List Edge) :
    (views forward).map Edge.unnumbered = views (forward.map Edge.unnumbered) := by
  rw [views, views, List.map_flatMap, List.flatMap_map]
  rfl

theorem perm_leaving (hperm : (forward.map Edge.unnumbered).Perm (forward'.map Edge.unnumbered))
    (id : EntityId) : (((ofForward forward).leaving id).map Edge.unnumbered).Perm
      (((ofForward forward').leaving id).map Edge.unnumbered) := by
  have hleaving (fs : List Edge) : (((ofForward fs).leaving id).map Edge.unnumbered).Perm
      ((views (fs.map Edge.unnumbered)).filter (·.near.id = id)) := by
    rw [leaving_ofForward, ← map_unnumbered_views, List.filter_map]
    exact ((List.mergeSort_perm _ _).filter _).map _
  exact (hleaving forward).trans (((hperm.flatMap_right _).filter _).trans (hleaving forward').symm)

theorem perm_arriving (hperm : (forward.map Edge.unnumbered).Perm (forward'.map Edge.unnumbered))
    (id : EntityId) : (((ofForward forward).arriving id).map Edge.unnumbered).Perm
      (((ofForward forward').arriving id).map Edge.unnumbered) := by
  have harriving (fs : List Edge) : (((ofForward fs).arriving id).map Edge.unnumbered).Perm
      ((fs.map Edge.unnumbered).filter (·.far.id = id)) := by
    rw [arriving_ofForward, List.filter_map]
    exact ((List.mergeSort_perm _ _).filter _).map _
  exact (harriving forward).trans ((hperm.filter _).trans (harriving forward').symm)

end EdgeIndex

end CodeGraph
