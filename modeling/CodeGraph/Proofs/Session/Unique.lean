import CodeGraph.Proofs.Membership
import CodeGraph.Proofs.Session.Evaluation
import CodeGraph.Proofs.Session.Filters
import Mathlib.Data.List.Find
import Mathlib.Data.List.Sort

/-!
# References listed once

Several references of an entity may agree in the relation and in the far end. If each is wanted
once, the first by location stands for all of them, and the list goes by ascending number of the far
end and then by relation. A filter selects by relation and far end, so it does not matter whether it
selects before the references are collapsed or after.

## Main definitions

* `Session.FarEndBefore` — the strict order of references that are listed once
* `Session.Collapses` — a list holds the first reference of each relation and far end

## Main results

* `Session.refs_exact` — what is listed with and without repetition
-/

namespace CodeGraph

namespace Session

variable {s : Session} {db : Database} {config : Config} {e : Entity} {a b x y : Edge}
  {listed once once' : List Edge} {f g : KindFilter} {kinds entityKinds : Option String}

/-! ### The order by far end -/

/-- By ascending number of the far end, then by relation. -/
def FarEndBefore (a b : Edge) : Prop :=
  a.far.id.value < b.far.id.value ∨ a.far.id = b.far.id ∧ a.kind.name < b.kind.name

/-- The comparison of far ends, then of relations. -/
def compareFarEnd : Edge → Edge → Ordering :=
  compareLex (compareOn (·.far.id)) (compareOn (·.kind.name))

instance : Std.TransCmp compareFarEnd :=
  inferInstanceAs (Std.TransCmp (compareLex _ _))

theorem compareFarEnd_eq_lt_iff : compareFarEnd a b = .lt ↔ FarEndBefore a b := by
  rw [compareFarEnd, compareLex, Ordering.then_eq_lt, compareOn, compareOn,
    EntityId.compare_eq_lt_iff, Std.compare_eq_iff_eq]
  exact or_congr_right (and_congr_right fun _ => compareOfLessAndEq_eq_lt)

/-- References are tied only if they agree in far end and relation. -/
theorem compareFarEnd_eq_eq_iff : compareFarEnd a b = .eq ↔ pairing a = pairing b := by
  simp only [compareFarEnd, compareLex_eq_eq, compareOn, Std.compare_eq_iff_eq, pairing,
    Prod.mk.injEq]
  exact and_comm

theorem byFarEnd_trans (a b c : Edge) (hab : byFarEnd a b) (hbc : byFarEnd b c) : byFarEnd a c :=
  @Std.TransCmp.isLE_trans _ compareFarEnd _ a b c hab hbc

theorem byFarEnd_total (a b : Edge) : byFarEnd a b || byFarEnd b a := by
  have hswap : compareFarEnd a b = (compareFarEnd b a).swap := Std.OrientedCmp.eq_swap
  change (compareFarEnd a b).isLE || (compareFarEnd b a).isLE
  rw [hswap]
  cases compareFarEnd b a <;> rfl

instance : Std.Irrefl FarEndBefore where
  irrefl a h := by simp [← compareFarEnd_eq_lt_iff, Std.ReflCmp.compare_self] at h

instance : Std.Antisymm FarEndBefore where
  antisymm a b hab hba := by
    rw [← compareFarEnd_eq_lt_iff] at hab hba
    have hswap : compareFarEnd a b = (compareFarEnd b a).swap := Std.OrientedCmp.eq_swap
    rw [hswap, hba] at hab
    cases hab

/-- References with distinct relations or far ends are sorted strictly. -/
theorem pairwise_farEndBefore_mergeSort (h : (listed.map pairing).Nodup) :
    (listed.mergeSort byFarEnd).Pairwise FarEndBefore := by
  have hsorted := List.pairwise_mergeSort byFarEnd_trans byFarEnd_total listed
  have hapart : (listed.mergeSort byFarEnd).Pairwise fun a b => pairing a ≠ pairing b :=
    List.pairwise_map.mp (((List.mergeSort_perm listed byFarEnd).map pairing).nodup_iff.mpr h)
  refine (hsorted.and hapart).imp fun {a b} ⟨hle, hne⟩ => compareFarEnd_eq_lt_iff.mp ?_
  change (compareFarEnd a b).isLE at hle
  cases hcmp : compareFarEnd a b with
  | lt => rfl
  | eq => exact absurd (compareFarEnd_eq_eq_iff.mp hcmp) hne
  | gt => simp [hcmp] at hle

/-! ### Collapsed lists -/

/-- The list `once` holds the first reference of each relation and far end in `listed`, and nothing
else, in strict order of far end and relation. -/
structure Collapses (listed once : List Edge) : Prop where
  mem_iff : ∀ x, x ∈ once ↔ listed.find? (pairing · = pairing x) = some x
  existsUnique : ∀ x ∈ listed, ∃! y, y ∈ once ∧ pairing y = pairing x
  ascending : once.Pairwise FarEndBefore

theorem collapses_mergeSort (listed : List Edge) :
    Collapses listed ((firstOfKey pairing [] listed).mergeSort byFarEnd) := by
  have hmem (x : Edge) : x ∈ (firstOfKey pairing [] listed).mergeSort byFarEnd ↔
      listed.find? (pairing · = pairing x) = some x := by
    rw [List.mem_mergeSort, mem_firstOfKey_iff]
    simp
  refine ⟨hmem, fun x hx => ?_, pairwise_farEndBefore_mergeSort (nodup_map_firstOfKey _ _ _)⟩
  obtain ⟨y, hy, hpairing⟩ : ∃ y ∈ firstOfKey pairing [] listed, pairing y = pairing x :=
    exists_mem_firstOfKey hx List.not_mem_nil
  have hy' : y ∈ (firstOfKey pairing [] listed).mergeSort byFarEnd := List.mem_mergeSort.mpr hy
  refine ⟨y, ⟨hy', hpairing⟩, fun z ⟨hz, hpairing'⟩ => ?_⟩
  -- both are the first with the pairing of `x`
  have hfirst := (hmem y).mp hy'
  have hfirst' := (hmem z).mp hz
  rw [hpairing] at hfirst
  rw [hpairing', hfirst] at hfirst'
  exact (Option.some.inj hfirst').symm

/-- Of a selection by relation and far end the first references are the selected first ones. -/
theorem Collapses.filter {p : Edge → Bool} (h : Collapses listed once)
    (h' : Collapses (listed.filter p) once')
    (hp : ∀ a ∈ listed, ∀ b ∈ listed, pairing a = pairing b → p a = p b) :
    once' = once.filter p := by
  refine h'.ascending.eq_of_mem_iff (h.ascending.filter p) fun x => ?_
  rw [h'.mem_iff, List.mem_filter, h.mem_iff, List.find?_filter]
  -- where `x` is selected, so is all that agrees with it
  have hsame (hx : x ∈ listed) (hpx : p x) :
      listed.find? (fun a => p a ∧ decide (pairing a = pairing x)) =
        listed.find? (pairing · = pairing x) := by
    refine List.find?_congr fun a ha => ?_
    by_cases hpairing : pairing a = pairing x
    · simp [hpairing, hp a ha x hx hpairing, hpx]
    · simp [hpairing]
  constructor
  · intro hfirst
    have hpx := List.find?_some hfirst
    simp only [decide_true, and_true, decide_eq_true_eq] at hpx
    exact ⟨hsame (List.mem_of_find?_eq_some hfirst) hpx ▸ hfirst, hpx⟩
  · intro ⟨hfirst, hpx⟩
    exact (hsame (List.mem_of_find?_eq_some hfirst) hpx).trans hfirst

/-! ### References -/

/-- The relation and the far end of a reference are selected. -/
def selectsBoth (f g : KindFilter) (x : Edge) : Bool :=
  f.selects x.kind && g.selects x.far.kind

theorem selectedEdges_all (s : Session) (id : EntityId) :
    s.selectedEdges id KindFilter.all KindFilter.all = s.index.leaving id := by
  simp [selectedEdges, selects_all]

/-- With filters the references of an entity are listed that these select among all of its
references. Listed once, each relation and far end that occurs has its first reference. The
references listed once are selected by the filters in the same way. -/
theorem refs_exact (h : start db config = .ok s) (he : e ∈ db.entities)
    (hf : KindFilter.parse? kinds = .ok f) (hg : KindFilter.parse? entityKinds = .ok g) :
    ∃ every everyOnce selected once,
      s.refs e.id none none false = .ok every ∧ s.refs e.id none none true = .ok everyOnce ∧
      s.refs e.id kinds entityKinds false = .ok selected ∧
      s.refs e.id kinds entityKinds true = .ok once ∧
      selected = every.filter (selectsBoth f g) ∧ Collapses selected once ∧
      once = everyOnce.filter (selectsBoth f g) := by
  have hover := start_eq_ok_iff.mp h
  have hevery := selectedEdges_all s e.id
  refine ⟨_, _, _, _, hover.refs_eq_ok he rfl rfl, hover.refs_eq_ok he rfl rfl,
    hover.refs_eq_ok he hf hg, hover.refs_eq_ok he hf hg, ?_, collapses_mergeSort _, ?_⟩
  · rw [hevery]
    rfl
  · rw [hevery]
    refine (collapses_mergeSort _).filter (collapses_mergeSort _) fun a ha b hb hpairing => ?_
    obtain ⟨hname, hid⟩ := Prod.mk.inj hpairing
    have hfar := hover.holds.eq_of_id_eq (hover.stored_of_mem_leaving he ha).2
      (hover.stored_of_mem_leaving he hb).2 hid
    rw [selectsBoth, selectsBoth, Kind.ext hname, hfar]

open Sample in
/-- The call of the method to itself. -/
def selfCall : Edge :=
  ⟨2, .forward, Kind.ofName "Call", run, run, file, ⟨3, 5⟩⟩

open Sample in
/-- Of two calls at one place the first one is listed once. The call of the method to itself is seen
from both of its ends, by different relations. -/
theorem refs_exact_sample : ∃ s once, start sample {} = .ok s ∧ run ∈ sample.entities ∧
    KindFilter.parse? (some "call, callby") = .ok ⟨[⟨["call"], []⟩, ⟨["callby"], []⟩]⟩ ∧
    KindFilter.parse? (some "method") = .ok (wordFilter "method") ∧
    s.refs run.id (some "call, callby") (some "method") false =
      .ok [selfCall, selfCall.reversed, call, { call with record := 1 }] ∧
    s.refs run.id (some "call, callby") (some "method") true = .ok once ∧
    call ∈ once ∧ { call with record := 1 } ∉ once := by
  obtain ⟨s, hs⟩ := exists_start_sample
  have hrun : run ∈ sample.entities := by simp [sample]
  have hkinds : KindFilter.parse? (some "call, callby") =
      .ok ⟨[⟨["call"], []⟩, ⟨["callby"], []⟩]⟩ := by rfl
  have hmethod : KindFilter.parse? (some "method") = .ok (wordFilter "method") := by rfl
  obtain ⟨-, -, selected, once, -, -, hselected, honce, -, hcollapses, -⟩ :=
    refs_exact hs hrun hkinds hmethod
  have hover := start_eq_ok_iff.mp hs
  have hlisted : selected = s.selectedEdges run.id _ _ :=
    Except.ok.inj (hselected.symm.trans (hover.refs_eq_ok hrun hkinds hmethod))
  have hedges : selected = [selfCall, selfCall.reversed, call, { call with record := 1 }] := by
    rw [hlisted, hover.eq_evaluated, hover.traversal_eq rfl]
    decide +kernel
  rw [hedges] at hselected hcollapses
  refine ⟨s, once, hs, hrun, hkinds, hmethod, hselected, honce, ?_, fun hsecond => ?_⟩
  · rw [hcollapses.mem_iff]
    decide +kernel
  · rw [hcollapses.mem_iff] at hsecond
    revert hsecond
    decide +kernel

end Session

end CodeGraph
