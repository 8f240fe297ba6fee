import CodeGraph.Proofs.Session.Start

/-!
# The edges of a started session

The edges that a session lists are the forward views of the stored references and their inverses.

## Main definitions

* `Database.Stores` — the edge is the forward view of a stored reference

## Main results

* `Session.IsOver.mem_leaving_iff`, `Session.IsOver.mem_arriving_iff` — what the lists hold
* `Session.IsOver.pairwise_leaving`, `Session.IsOver.pairwise_arriving` — the lists are in strict
  order of location
-/

namespace CodeGraph

/-- The edge is the forward view of the stored reference that bears its number; its ends and its
file are stored entities. -/
structure Database.Stores (db : Database) (e : Edge) : Prop where
  reference : ∃ r, db.references[e.record]? = some r ∧ e.IsForwardOf r
  near : e.near ∈ db.entities
  far : e.far ∈ db.entities
  file : e.file ∈ db.entities

theorem Database.Stores.isInverse_eq_false {db : Database} {e : Edge} (h : db.Stores e) :
    e.isInverse = false := by
  obtain ⟨r, -, hview⟩ := h.reference
  simp [Edge.isInverse, hview.direction]

/-- What holds of the relations of all stored references holds of the relation of each edge. -/
theorem Database.Stores.kind_of_forall {db : Database} {e : Edge} {P : Kind → Prop}
    (h : db.Stores e) (hall : ∀ r ∈ db.references, P r.kind) : P e.kind := by
  obtain ⟨r, hr, hview⟩ := h.reference
  exact hview.kind ▸ hall r (List.mem_of_getElem? hr)

/-- The inverse view has lost the stored relation, but the number of the reference tells it. -/
theorem Database.Stores.eq_of_reversed_eq {db : Database} {e f : Edge} (he : db.Stores e)
    (hf : db.Stores f) (h : e.reversed = f.reversed) : e = f := by
  obtain ⟨r, hr, hview⟩ := he.reference
  obtain ⟨r', hr', hview'⟩ := hf.reference
  have hrecord : e.reversed.record = f.reversed.record := congrArg Edge.record h
  change e.record = f.record at hrecord
  rw [hrecord] at hr
  obtain rfl := Option.some.inj (hr.symm.trans hr')
  have hkind : e.kind = f.kind := hview.kind.trans hview'.kind.symm
  have hdirection : e.direction = f.direction := hview.direction.trans hview'.direction.symm
  cases e
  cases f
  simp_all [Edge.reversed]

theorem Session.stores_call_sample : sample.Stores Sample.call := by
  refine ⟨⟨_, rfl, ⟨rfl, rfl, rfl, rfl, rfl, rfl⟩⟩, ?_, ?_, ?_⟩ <;> simp [sample, Sample.call]

namespace Session.IsOver

variable {s : Session} {db : Database} {config : Config} {e f : Edge} {id : EntityId}

/-- The index is made of the forward edges of the stored references. -/
theorem exists_forward (h : s.IsOver db config) : ∃ forward,
    s.index = EdgeIndex.ofForward forward ∧
      forward.map (·.record) = List.range db.references.length ∧
      ∀ e, e ∈ forward ↔ db.Stores e := by
  obtain ⟨forward, hforward, hindex⟩ := EdgeIndex.ofReferences_eq_ok_iff.mp h.index
  refine ⟨forward, hindex, ?_, fun e => ?_⟩
  · rw [EdgeIndex.record_forwardEdges h.holds hforward, List.range_eq_range']
  · simp only [EdgeIndex.mem_forwardEdges_iff hforward,
      EdgeIndex.forwardEdge_eq_ok_iff h.holds, Nat.zero_add]
    constructor
    · rintro ⟨i, r, hi, rfl, hview, hnear, hfar, hfile⟩
      exact ⟨⟨r, hi, hview⟩, hnear, hfar, hfile⟩
    · intro ⟨⟨r, hi, hview⟩, hnear, hfar, hfile⟩
      exact ⟨e.record, r, hi, rfl, hview, hnear, hfar, hfile⟩

/-- Every stored reference has a forward edge, which bears its number. -/
theorem exists_stores (h : s.IsOver db config) {i : Nat} {r : Reference}
    (hr : db.references[i]? = some r) : ∃ e, db.Stores e ∧ e.record = i ∧ e.IsForwardOf r := by
  obtain ⟨forward, -, hrecord, hstores⟩ := h.exists_forward
  obtain ⟨hi, -⟩ := List.getElem?_eq_some_iff.mp hr
  have hmem : i ∈ forward.map (·.record) := by
    rw [hrecord]
    exact List.mem_range.mpr hi
  obtain ⟨e, he, rfl⟩ := List.mem_map.mp hmem
  have hstored := (hstores e).mp he
  obtain ⟨r', hr', hview⟩ := hstored.reference
  obtain rfl := Option.some.inj (hr.symm.trans hr')
  exact ⟨e, hstored, rfl, hview⟩

theorem mem_leaving_iff (h : s.IsOver db config) : e ∈ s.index.leaving id ↔
    e.near.id = id ∧ ∃ f, db.Stores f ∧ (e = f ∨ e = f.reversed) := by
  obtain ⟨forward, hindex, -, hstores⟩ := h.exists_forward
  rw [hindex, EdgeIndex.leaving_ofForward, List.mem_filter, List.mem_mergeSort,
    EdgeIndex.mem_views_iff]
  simp [hstores, and_comm]

/-- The ends of the edges of a list are stored. -/
theorem stored_of_mem_leaving (h : s.IsOver db config) {x : Entity} (hx : x ∈ db.entities)
    (he : e ∈ s.index.leaving x.id) : e.near = x ∧ e.far ∈ db.entities := by
  obtain ⟨hnear, f, hf, rfl | rfl⟩ := h.mem_leaving_iff.mp he
  · exact ⟨h.holds.eq_of_id_eq hf.near hx hnear, hf.far⟩
  · exact ⟨h.holds.eq_of_id_eq hf.far hx hnear, hf.near⟩

/-- The forward edges of a list are stored ones. -/
theorem mem_leaving_forward_iff (h : s.IsOver db config) :
    e ∈ s.index.leaving id ∧ e.isInverse = false ↔ db.Stores e ∧ e.near.id = id := by
  rw [h.mem_leaving_iff]
  constructor
  · rintro ⟨⟨hnear, f, hf, rfl | rfl⟩, hforward⟩
    · exact ⟨hf, hnear⟩
    · simp [Edge.isInverse, Edge.reversed] at hforward
  · rintro ⟨he, hnear⟩
    exact ⟨⟨hnear, e, he, Or.inl rfl⟩, he.isInverse_eq_false⟩

/-- The inverse edges of a list belong to stored edges that arrive. -/
theorem mem_leaving_inverse_iff (h : s.IsOver db config) :
    e ∈ s.index.leaving id ∧ e.isInverse ↔ ∃ f, db.Stores f ∧ f.far.id = id ∧ e = f.reversed := by
  rw [h.mem_leaving_iff]
  constructor
  · rintro ⟨⟨hnear, f, hf, rfl | rfl⟩, hinverse⟩
    · exact absurd hinverse (by simp [hf.isInverse_eq_false])
    · exact ⟨f, hf, hnear, rfl⟩
  · rintro ⟨f, hf, hfar, rfl⟩
    exact ⟨⟨hfar, f, hf, Or.inr rfl⟩, rfl⟩

theorem mem_arriving_iff (h : s.IsOver db config) :
    e ∈ s.index.arriving id ↔ db.Stores e ∧ e.far.id = id := by
  obtain ⟨forward, hindex, -, hstores⟩ := h.exists_forward
  rw [hindex, EdgeIndex.arriving_ofForward, List.mem_filter, List.mem_mergeSort, hstores]
  simp

theorem pairwise_leaving (h : s.IsOver db config) (id : EntityId) :
    (s.index.leaving id).Pairwise Edge.Before := by
  obtain ⟨forward, hindex, hrecord, hstores⟩ := h.exists_forward
  rw [hindex, EdgeIndex.leaving_ofForward]
  refine (Edge.pairwise_before_mergeSort (EdgeIndex.nodup_number_views ?_ ?_)).filter _
  · intro e he
    obtain ⟨⟨r, -, hview⟩, -⟩ := (hstores e).mp he
    exact hview.direction
  · exact hrecord ▸ List.nodup_range

theorem pairwise_arriving (h : s.IsOver db config) (id : EntityId) :
    (s.index.arriving id).Pairwise Edge.Before := by
  obtain ⟨forward, hindex, hrecord, hstores⟩ := h.exists_forward
  rw [hindex, EdgeIndex.arriving_ofForward]
  refine (Edge.pairwise_before_mergeSort ?_).filter _
  -- forward edges have even numbers, twice the number of the reference
  have hnumber : forward.map Edge.number = (List.range db.references.length).map (2 * ·) := by
    rw [← hrecord, List.map_map]
    refine List.map_congr_left fun e he => ?_
    obtain ⟨⟨r, -, hview⟩, -⟩ := (hstores e).mp he
    simp [Edge.number, hview.direction]
  rw [hnumber]
  exact List.nodup_range.map fun i j hij => by omega

end Session.IsOver

end CodeGraph
