import CodeGraph.Edge.Index
import CodeGraph.Proofs.Catalog
import CodeGraph.Proofs.Edge.Order
import Mathlib.Data.List.Perm.Basic
import Mathlib.Data.List.Range

/-!
# The edges of references

Over the entities of a catalogue a reference whose numbers are known has one forward edge, and the
forward edges are numbered as the references are stored. The lists of an index are made of these
edges and their inverses.

## Main results

* `EdgeIndex.exists_forwardEdges_iff` — references have edges exactly if their numbers are known
* `EdgeIndex.mem_forwardEdges_iff` — each edge belongs to the reference that bears its number
* `EdgeIndex.nodup_number_views` — no two edges share a number
-/

namespace CodeGraph

/-- The edge leads from the source of the reference to its target, with its relation and place. -/
structure Edge.IsForwardOf (e : Edge) (r : Reference) : Prop where
  direction : e.direction = .forward
  kind : e.kind = r.kind
  near : e.near.id = r.source
  far : e.far.id = r.target
  file : e.file.id = r.file
  position : e.position = r.position

/-- The numbers that the reference holds are among `ids`. -/
def Reference.IsKnown (ids : List EntityId) (r : Reference) : Prop :=
  r.source ∈ ids ∧ r.target ∈ ids ∧ r.file ∈ ids

theorem Reference.IsKnown.mono {ids ids' : List EntityId} {r : Reference} (h : ids ⊆ ids')
    (hr : r.IsKnown ids) : r.IsKnown ids' :=
  ⟨h hr.1, h hr.2.1, h hr.2.2⟩

namespace EdgeIndex

variable {c : Catalog} {es : List Entity} {n : Nat} {r : Reference} {rs : List Reference}
  {e : Edge} {forward : List Edge} {id : EntityId}

/-! ### The forward edges of references -/

theorem resolve_eq_ok_iff (h : c.Holds es) {role : Role} {x : Entity} :
    resolve c n role id = .ok x ↔ x ∈ es ∧ x.id = id := by
  rw [← h.entity?_eq_some_iff, resolve]
  cases c.entity? id <;> simp

theorem forwardEdge_eq_ok_iff (h : c.Holds es) : forwardEdge c n r = .ok e ↔
    e.record = n ∧ e.IsForwardOf r ∧ e.near ∈ es ∧ e.far ∈ es ∧ e.file ∈ es := by
  constructor
  · intro hedge
    simp only [forwardEdge, bind, Except.bind] at hedge
    split at hedge
    · simp at hedge
    next source hsource =>
      split at hedge
      · simp at hedge
      next target htarget =>
        split at hedge
        · simp at hedge
        next file hfile =>
          cases hedge
          rw [resolve_eq_ok_iff h] at hsource htarget hfile
          exact ⟨rfl, ⟨rfl, rfl, hsource.2, htarget.2, hfile.2, rfl⟩, hsource.1, htarget.1,
            hfile.1⟩
  · rintro ⟨rfl, hview, hnear, hfar, hfile⟩
    have hsource : resolve c e.record .source r.source = .ok e.near :=
      (resolve_eq_ok_iff h).mpr ⟨hnear, hview.near⟩
    have htarget : resolve c e.record .target r.target = .ok e.far :=
      (resolve_eq_ok_iff h).mpr ⟨hfar, hview.far⟩
    have hfile : resolve c e.record .file r.file = .ok e.file :=
      (resolve_eq_ok_iff h).mpr ⟨hfile, hview.file⟩
    simp only [forwardEdge, hsource, htarget, hfile, bind, Except.bind, pure, Except.pure,
      ← hview.direction, ← hview.kind, ← hview.position]

theorem exists_forwardEdge_iff (h : c.Holds es) :
    (∃ e, forwardEdge c n r = .ok e) ↔ r.IsKnown (es.map (·.id)) := by
  simp only [forwardEdge_eq_ok_iff h, Reference.IsKnown, List.mem_map]
  constructor
  · rintro ⟨e, -, hview, hnear, hfar, hfile⟩
    exact ⟨⟨_, hnear, hview.near⟩, ⟨_, hfar, hview.far⟩, ⟨_, hfile, hview.file⟩⟩
  · intro ⟨⟨source, hsource, hs⟩, ⟨target, htarget, ht⟩, ⟨file, hfile, hf⟩⟩
    exact ⟨⟨n, .forward, r.kind, source, target, file, r.position⟩, rfl,
      ⟨rfl, rfl, hs, ht, hf, rfl⟩, hsource, htarget, hfile⟩

theorem forwardEdges_cons_eq_ok_iff : forwardEdges c n (r :: rs) = .ok forward ↔
    ∃ e rest, forwardEdge c n r = .ok e ∧ forwardEdges c (n + 1) rs = .ok rest ∧
      forward = e :: rest := by
  simp only [forwardEdges, bind, Except.bind, pure, Except.pure]
  cases forwardEdge c n r with
  | error e => simp
  | ok e => cases forwardEdges c (n + 1) rs <;> simp [eq_comm]

theorem exists_forwardEdges_iff (h : c.Holds es) :
    (∃ forward, forwardEdges c n rs = .ok forward) ↔ ∀ r ∈ rs, r.IsKnown (es.map (·.id)) := by
  induction rs generalizing n with
  | nil => simp [forwardEdges]
  | cons r rs ih =>
    rw [List.forall_mem_cons, ← ih (n := n + 1), ← exists_forwardEdge_iff (n := n) h]
    simp only [forwardEdges_cons_eq_ok_iff]
    constructor
    · rintro ⟨forward, e, rest, he, hrest, -⟩
      exact ⟨⟨e, he⟩, rest, hrest⟩
    · intro ⟨⟨e, he⟩, rest, hrest⟩
      exact ⟨e :: rest, e, rest, he, hrest, rfl⟩

theorem ofReferences_eq_ok_iff {i : EdgeIndex} : ofReferences c rs = .ok i ↔
    ∃ forward, forwardEdges c 0 rs = .ok forward ∧ i = ofForward forward := by
  rw [ofReferences]
  cases forwardEdges c 0 rs with
  | error e => simp [Except.map]
  | ok forward =>
    simp only [Except.map, Except.ok.injEq, exists_eq_left']
    exact eq_comm

theorem exists_ofReferences_iff (h : c.Holds es) :
    (∃ i, ofReferences c rs = .ok i) ↔ ∀ r ∈ rs, r.IsKnown (es.map (·.id)) := by
  simp only [ofReferences_eq_ok_iff, ← exists_forwardEdges_iff (n := 0) h]
  constructor
  · rintro ⟨i, forward, hforward, -⟩
    exact ⟨forward, hforward⟩
  · intro ⟨forward, hforward⟩
    exact ⟨_, forward, hforward, rfl⟩

/-- The forward edges are numbered as the references are stored. -/
theorem record_forwardEdges (h : c.Holds es) (hforward : forwardEdges c n rs = .ok forward) :
    forward.map (·.record) = List.range' n rs.length := by
  induction rs generalizing n forward with
  | nil =>
    cases hforward
    rfl
  | cons r rs ih =>
    obtain ⟨e, rest, he, hrest, rfl⟩ := forwardEdges_cons_eq_ok_iff.mp hforward
    rw [List.map_cons, ih hrest, ((forwardEdge_eq_ok_iff h).mp he).1]
    rfl

/-- Each forward edge belongs to the reference that bears its number. -/
theorem mem_forwardEdges_iff (hforward : forwardEdges c n rs = .ok forward) :
    e ∈ forward ↔ ∃ i r, rs[i]? = some r ∧ forwardEdge c (n + i) r = .ok e := by
  induction rs generalizing n forward with
  | nil =>
    cases hforward
    simp
  | cons r rs ih =>
    obtain ⟨e₀, rest, he₀, hrest, rfl⟩ := forwardEdges_cons_eq_ok_iff.mp hforward
    rw [List.mem_cons, ih hrest]
    constructor
    · rintro (rfl | ⟨i, r', hi, he⟩)
      · exact ⟨0, r, rfl, he₀⟩
      · exact ⟨i + 1, r', hi, by rwa [Nat.add_comm i 1, ← Nat.add_assoc]⟩
    · intro ⟨i, r', hi, he⟩
      cases i with
      | zero =>
        cases hi
        exact Or.inl (Except.ok.inj (he.symm.trans he₀))
      | succ i => exact Or.inr ⟨i, r', hi, by rwa [Nat.add_assoc, Nat.add_comm 1 i]⟩

/-! ### Both views of each reference -/

/-- The forward edges, each with its inverse. -/
def views (forward : List Edge) : List Edge :=
  forward.flatMap fun e => [e, e.reversed]

theorem mem_views_iff : e ∈ views forward ↔ ∃ f ∈ forward, e = f ∨ e = f.reversed := by
  simp [views]

theorem perm_views (forward : List Edge) :
    (views forward).Perm (forward ++ forward.map Edge.reversed) := by
  have happend := List.flatMap_append_perm forward (fun e => [e]) fun e => [e.reversed]
  rw [List.flatMap_singleton', ← List.map_eq_flatMap] at happend
  exact happend.symm

theorem nodup_number_views (hdirection : ∀ e ∈ forward, e.direction = .forward)
    (hrecord : (forward.map (·.record)).Nodup) : ((views forward).map Edge.number).Nodup := by
  have hnumber : (views forward).map Edge.number =
      (forward.map (·.record)).flatMap fun i => [2 * i, 2 * i + 1] := by
    rw [views, List.map_flatMap, List.flatMap_map]
    refine List.flatMap_congr fun e he => ?_
    simp [Edge.number, Edge.reversed, hdirection e he]
  rw [hnumber, List.nodup_flatMap]
  -- neither do the two numbers of a reference agree nor those of different references
  refine ⟨fun i _ => by simp, hrecord.imp fun hne => ?_⟩
  simp only [Function.onFun, List.disjoint_left, List.mem_cons, List.not_mem_nil, or_false]
  omega

theorem leaving_ofForward (forward : List Edge) (id : EntityId) : (ofForward forward).leaving id =
    ((views forward).mergeSort Edge.inOrder).filter (·.near.id = id) :=
  Register.filed_ofList _ _ _

theorem arriving_ofForward (forward : List Edge) (id : EntityId) :
    (ofForward forward).arriving id = (forward.mergeSort Edge.inOrder).filter (·.far.id = id) :=
  Register.filed_ofList _ _ _

end EdgeIndex

end CodeGraph
