import CodeGraph.Edge

/-!
# The order of edges by location

The order compares all keys in turn and the number of the edge last, so it is total, and edges with
distinct numbers are never tied.

## Main results

* `Edge.pairwise_mergeSort` — sorting puts edges in order
* `Edge.pairwise_before_mergeSort` — edges with distinct numbers end up in strict order
-/

namespace CodeGraph.Edge

variable {a b c e : Edge} {es : List Edge}

instance : Std.TransCmp compareLocation :=
  inferInstanceAs (Std.TransCmp (compareLex _ _))

/-- The edge comes strictly before another. -/
def Before (a b : Edge) : Prop :=
  compareLocation a b = .lt

theorem inOrder_trans (a b c : Edge) (hab : inOrder a b) (hbc : inOrder b c) : inOrder a c :=
  @Std.TransCmp.isLE_trans _ compareLocation _ a b c hab hbc

theorem inOrder_total (a b : Edge) : inOrder a b || inOrder b a := by
  have hswap : compareLocation a b = (compareLocation b a).swap := Std.OrientedCmp.eq_swap
  rw [inOrder, inOrder, hswap]
  cases compareLocation b a <;> rfl

theorem pairwise_mergeSort (es : List Edge) :
    (es.mergeSort inOrder).Pairwise fun a b => inOrder a b :=
  List.pairwise_mergeSort inOrder_trans inOrder_total es

/-- Edges are tied only if they agree in every key, the last of which is the number. -/
theorem compareLocation_eq_iff : compareLocation a b = .eq ↔
    a.file.longname = b.file.longname ∧ a.file.id = b.file.id ∧
      a.position.line = b.position.line ∧ a.position.column = b.position.column ∧
      a.kind.name = b.kind.name ∧ a.far.id = b.far.id ∧ a.number = b.number := by
  simp only [compareLocation, compareLex_eq_eq, compareOn, Std.compare_eq_iff_eq]

theorem before_of_inOrder (h : inOrder a b) (hne : a.number ≠ b.number) : a.Before b := by
  have hneq : compareLocation a b ≠ .eq := fun heq =>
    hne (compareLocation_eq_iff.mp heq).2.2.2.2.2.2
  simp only [inOrder] at h
  unfold Before
  cases hcmp : compareLocation a b with
  | lt => rfl
  | eq => exact absurd hcmp hneq
  | gt => simp [hcmp] at h

theorem Before.inOrder (h : a.Before b) : inOrder a b := by
  rw [Edge.inOrder, show compareLocation a b = .lt from h]
  rfl

theorem Before.ne (h : a.Before b) : a ≠ b := by
  rintro rfl
  simp [Before, Std.ReflCmp.compare_self] at h

/-- Edges with distinct numbers are sorted strictly. -/
theorem pairwise_before_mergeSort (h : (es.map number).Nodup) :
    (es.mergeSort inOrder).Pairwise Before := by
  have hne : (es.mergeSort inOrder).Pairwise fun a b => a.number ≠ b.number :=
    List.pairwise_map.mp (((List.mergeSort_perm es inOrder).map number).nodup_iff.mpr h)
  exact ((pairwise_mergeSort es).and hne).imp fun h => before_of_inOrder h.1 h.2

end CodeGraph.Edge
