import CodeGraph.Catalog
import Mathlib.Data.List.Nodup

/-!
# What a catalogue holds

A catalogue can be made exactly of entities with distinct numbers. It then holds them by strictly
ascending number, so that it does not depend on the order in which they were given, and its look-ups
are searches of that list.

## Main results

* `Catalog.exists_ofEntities_iff` — a catalogue is made of entities with distinct numbers only
* `Catalog.ofEntities_congr` — the storage order of the entities is lost
* `Catalog.Holds.entity?_eq_some_iff` — the entity found under a number is the stored one
-/

namespace CodeGraph.Catalog

variable {es es' : List Entity} {c : Catalog} {e : Entity} {id : EntityId}

/-! ### The order by number -/

theorem inOrder_iff {a b : Entity} : inOrder a b ↔ a.id.value ≤ b.id.value :=
  EntityId.compare_isLE_iff

theorem inOrder_trans (a b c : Entity) (hab : inOrder a b) (hbc : inOrder b c) : inOrder a c :=
  inOrder_iff.mpr (UInt32.le_trans (inOrder_iff.mp hab) (inOrder_iff.mp hbc))

theorem inOrder_total (a b : Entity) : inOrder a b || inOrder b a := by
  simpa only [Bool.or_eq_true, inOrder_iff] using UInt32.le_total a.id.value b.id.value

theorem pairwise_mergeSort (es : List Entity) :
    (es.mergeSort inOrder).Pairwise fun a b => a.id.value ≤ b.id.value :=
  (List.pairwise_mergeSort inOrder_trans inOrder_total es).imp inOrder_iff.mp

theorem value_inj {a b : EntityId} : a.value = b.value ↔ a = b :=
  ⟨fun h => by cases a; cases b; exact congrArg EntityId.mk h, congrArg EntityId.value⟩

/-- Among entities in order, a shared number is shared by neighbours. -/
theorem sharedId_eq_none_iff (h : es.Pairwise fun a b => a.id.value ≤ b.id.value) :
    sharedId es = none ↔ es.Pairwise fun a b => a.id.value < b.id.value := by
  induction es with
  | nil => simp [sharedId]
  | cons a es ih =>
    cases es with
    | nil => simp [sharedId]
    | cons b es =>
      rw [List.pairwise_cons] at h
      have hab : a.id.value ≤ b.id.value := h.1 b List.mem_cons_self
      by_cases hid : a.id = b.id
      · simp [sharedId, hid]
      · have hlt : a.id.value < b.id.value :=
          UInt32.lt_of_le_of_ne hab fun heq => hid (value_inj.mp heq)
        rw [sharedId, if_neg hid, ih h.2, List.pairwise_cons (a := a)]
        -- `a` is below its neighbour `b`, and `b` below all others
        refine ⟨fun htail => ⟨?_, htail⟩, And.right⟩
        intro x hx
        rcases List.mem_cons.mp hx with rfl | hx
        · exact hlt
        · exact UInt32.lt_trans hlt ((List.pairwise_cons.mp htail).1 x hx)

theorem nodup_of_pairwise (h : es.Pairwise fun a b => a.id.value < b.id.value) :
    (es.map (·.id)).Nodup :=
  List.pairwise_map.mpr (h.imp fun hlt heq => UInt32.ne_of_lt hlt (congrArg EntityId.value heq))

theorem sharedId_mergeSort_eq_none_iff :
    sharedId (es.mergeSort inOrder) = none ↔ (es.map (·.id)).Nodup := by
  rw [sharedId_eq_none_iff (pairwise_mergeSort es),
    ← ((List.mergeSort_perm es inOrder).map (·.id)).nodup_iff]
  refine ⟨nodup_of_pairwise, fun h => ?_⟩
  apply ((pairwise_mergeSort es).and (List.pairwise_map.mp h)).imp
  exact fun ⟨hle, hne⟩ => UInt32.lt_of_le_of_ne hle fun heq => hne (value_inj.mp heq)

/-! ### The catalogue of entities -/

/-- The catalogue holds the entities `es` and files them under their number and their names. -/
structure Holds (c : Catalog) (es : List Entity) : Prop where
  perm : c.entities.Perm es
  ordered : c.entities.Pairwise fun a b => a.id.value < b.id.value
  byId : c.byId = Register.ofList (·.id) c.entities
  byName : c.byName = Register.ofList (·.name) c.entities
  byLongname : c.byLongname = Register.ofList (·.longname) c.entities

theorem holds_of_ofEntities (h : ofEntities es = .ok c) : c.Holds es := by
  simp only [ofEntities] at h
  split at h
  · simp at h
  next hshared =>
    cases h
    exact ⟨List.mergeSort_perm _ _, (sharedId_eq_none_iff (pairwise_mergeSort es)).mp hshared,
      rfl, rfl, rfl⟩

namespace Holds

theorem mem_iff (h : c.Holds es) : e ∈ c.entities ↔ e ∈ es :=
  h.perm.mem_iff

theorem nodup_id (h : c.Holds es) : (es.map (·.id)).Nodup :=
  (h.perm.map (·.id)).nodup_iff.mp (nodup_of_pairwise h.ordered)

theorem size_eq (h : c.Holds es) : c.size = es.length :=
  h.perm.length_eq

/-- A stored entity is determined by its number. -/
theorem eq_of_id_eq (h : c.Holds es) {a b : Entity} (ha : a ∈ es) (hb : b ∈ es)
    (hid : a.id = b.id) : a = b :=
  List.inj_on_of_nodup_map h.nodup_id ha hb hid

theorem entity?_eq_some_iff (h : c.Holds es) : c.entity? id = some e ↔ e ∈ es ∧ e.id = id := by
  rw [entity?, h.byId, Register.filed_ofList]
  constructor
  · intro hhead
    have hmem := List.mem_filter.mp (List.mem_of_head? hhead)
    exact ⟨h.mem_iff.mp hmem.1, by simpa using hmem.2⟩
  · rintro ⟨hmem, rfl⟩
    have hfound : e ∈ c.entities.filter (·.id = e.id) :=
      List.mem_filter.mpr ⟨h.mem_iff.mpr hmem, by simp⟩
    cases hlist : c.entities.filter (·.id = e.id) with
    | nil => simp [hlist] at hfound
    | cons a rest =>
      have ha : a ∈ c.entities.filter (·.id = e.id) := hlist ▸ List.mem_cons_self
      rw [List.mem_filter] at ha
      exact congrArg some
        (h.eq_of_id_eq (h.mem_iff.mp ha.1) hmem (of_decide_eq_true ha.2))

end Holds

theorem exists_ofEntities_iff : (∃ c, ofEntities es = .ok c) ↔ (es.map (·.id)).Nodup := by
  rw [← sharedId_mergeSort_eq_none_iff, ofEntities]
  cases sharedId (es.mergeSort inOrder) <;> simp

/-- The storage order of the entities is lost. -/
theorem ofEntities_congr (hperm : es.Perm es') (hnodup : (es.map (·.id)).Nodup) :
    ofEntities es = ofEntities es' := by
  have hsorted : es.mergeSort inOrder = es'.mergeSort inOrder := by
    refine List.Perm.eq_of_pairwise ?_ (pairwise_mergeSort es) (pairwise_mergeSort es') ?_
    · intro a b ha hb hab hba
      rw [List.mem_mergeSort] at ha hb
      exact List.inj_on_of_nodup_map hnodup ha (hperm.mem_iff.mpr hb)
        (value_inj.mp (UInt32.le_antisymm hab hba))
    · exact (List.mergeSort_perm _ _).trans (hperm.trans (List.mergeSort_perm _ _).symm)
  rw [ofEntities, ofEntities, hsorted]

end CodeGraph.Catalog
