import CodeGraph.Membership
import CodeGraph.Proofs.Kind
import CodeGraph.Proofs.Session.Edges
import Mathlib.Data.List.Perm.Subperm

/-!
# Owners and ancestors

An owner edge is the inverse view of a stored reference. From an entity the way to its nearest
ancestor of a category passes no entity twice, since where it goes on does not depend on where it
comes from; so it is found within as many steps as there are entities, also where ownership is
cyclic.

## Main definitions

* `Climbs` — the way to the nearest ancestor of a category
* `Nearest` — the nearest ancestor of a category

## Main results

* `Nearest.unique` — there is at most one nearest ancestor of a category
* `Session.IsOver.lift_eq_of_nearest`, `Session.lift_eq_self` — what an entity is lifted to
-/

namespace CodeGraph

/-! ### Nearest ancestors -/

section Climbs

variable {up : Entity → Entity → Prop} {category : String} {e p a b : Entity}
  {path path' : List Entity}

/-- The steps upwards from `e` pass through `path` until they meet, in `a`, an entity of the
category. -/
inductive Climbs (up : Entity → Entity → Prop) (category : String) :
    Entity → List Entity → Entity → Prop
  | here {e : Entity} : e.kind.category = category → Climbs up category e [] e
  | step {e p a : Entity} {path : List Entity} : e.kind.category ≠ category → up e p →
      Climbs up category p path a → Climbs up category e (e :: path) a

/-- The entity `a` is the nearest of `e` and its ancestors that has the category. -/
def Nearest (up : Entity → Entity → Prop) (category : String) (e a : Entity) : Prop :=
  ∃ path, Climbs up category e path a

/-- The entity is nearest to itself, or its ancestor is nearest to what is above it. -/
theorem nearest_iff : Nearest up category e a ↔ e.kind.category = category ∧ e = a ∨
    e.kind.category ≠ category ∧ ∃ p, up e p ∧ Nearest up category p a := by
  constructor
  · intro ⟨path, hclimb⟩
    cases hclimb with
    | here hcategory => exact Or.inl ⟨hcategory, rfl⟩
    | step hcategory hup hclimb => exact Or.inr ⟨hcategory, _, hup, _, hclimb⟩
  · rintro (⟨hcategory, rfl⟩ | ⟨hcategory, p, hup, path, hclimb⟩)
    · exact ⟨[], .here hcategory⟩
    · exact ⟨e :: path, .step hcategory hup hclimb⟩

/-- Each entity has at most one next entity upwards. -/
def Deterministic (up : Entity → Entity → Prop) : Prop :=
  ∀ e p q, up e p → up e q → p = q

theorem Climbs.unique (hup : Deterministic up) (h : Climbs up category e path a)
    (h' : Climbs up category e path' b) : path = path' ∧ a = b := by
  induction h generalizing path' with
  | here hcategory =>
    cases h' with
    | here _ => exact ⟨rfl, rfl⟩
    | step hne _ _ => exact absurd hcategory hne
  | step hne hstep _ ih =>
    cases h' with
    | here hcategory => exact absurd hcategory hne
    | step _ hstep' h' =>
      obtain rfl := hup _ _ _ hstep hstep'
      obtain ⟨rfl, rfl⟩ := ih h'
      exact ⟨rfl, rfl⟩

/-- There is at most one nearest ancestor of a category. -/
theorem Nearest.unique (hup : Deterministic up) (h : Nearest up category e a)
    (h' : Nearest up category e b) : a = b := by
  obtain ⟨path, hclimb⟩ := h
  obtain ⟨path', hclimb'⟩ := h'
  exact (hclimb.unique hup hclimb').2

/-- From every entity on the way the rest of the way is shorter. -/
theorem Climbs.exists_of_mem (h : Climbs up category e path a) {x : Entity} (hx : x ∈ path) :
    ∃ rest, Climbs up category x rest a ∧ rest.length ≤ path.length := by
  induction h with
  | here _ => simp at hx
  | @step e p a path hne hstep hclimb ih =>
    rcases List.mem_cons.mp hx with rfl | hx
    · exact ⟨x :: path, .step hne hstep hclimb, Nat.le_refl _⟩
    · obtain ⟨rest, hrest, hlength⟩ := ih hx
      exact ⟨rest, hrest, Nat.le_succ_of_le hlength⟩

/-- No entity is passed twice. -/
theorem Climbs.nodup (hup : Deterministic up) (h : Climbs up category e path a) : path.Nodup := by
  induction h with
  | here _ => exact List.nodup_nil
  | @step e p a path hne hstep hclimb ih =>
    refine List.nodup_cons.mpr ⟨fun hmem => ?_, ih⟩
    -- if `e` came up again, the way from there would be a shorter one from `e`
    obtain ⟨rest, hrest, hlength⟩ := hclimb.exists_of_mem hmem
    obtain ⟨rfl, -⟩ := hrest.unique hup (.step hne hstep hclimb)
    exact absurd hlength (Nat.not_succ_le_self _)

theorem Climbs.forall_mem {P : Entity → Prop} (hup : ∀ e p, P e → up e p → P p) (he : P e)
    (h : Climbs up category e path a) : (∀ x ∈ path, P x) ∧ P a := by
  induction h with
  | here _ => exact ⟨by simp, he⟩
  | step _ hstep _ ih =>
    obtain ⟨hpath, ha⟩ := ih (hup _ _ he hstep)
    exact ⟨List.forall_mem_cons.mpr ⟨he, hpath⟩, ha⟩

end Climbs

namespace Session

variable {s : Session} {db : Database} {config : Config} {category : String} {f : KindFilter}
  {e p a : Entity} {x : Edge} {n : Nat}

/-! ### Owners -/

/-- The inverse of a relation leads to owners exactly if the relation is a definition. -/
theorem IsOver.ownerRelation_inverse_iff (h : s.IsOver db config) {k : Kind}
    (hone : k.AtMostOneVerb) (hno : ¬ k.hasWord "definein") :
    s.traversal.ownerRelation.selects k.inverse ↔ k.hasWord "define" := by
  obtain ⟨hrelation, -⟩ := Traversal.ofConfig_eq_ok_iff.mp h.traversal
  have hword : s.traversal.ownerRelation = wordFilter "definein" :=
    (Except.ok.inj hrelation).symm
  have hverb : "define" ∈ relationVerbs := by decide
  rw [hword, selects_wordFilter]
  exact Kind.hasWord_inverse_iff hone hverb hno

/-- The inverse view of `g` leads to an owner of a selected kind. -/
structure LeadsToOwner (s : Session) (f : KindFilter) (g : Edge) : Prop where
  relation : s.traversal.ownerRelation.selects g.kind.inverse
  owner : f.selects g.near.kind

theorem IsOver.exists_of_ownerEdge? (h : s.IsOver db config)
    (hx : s.ownerEdge? e.id f = some x) :
    ∃ g, db.Stores g ∧ g.far.id = e.id ∧ s.LeadsToOwner f g ∧ x = g.reversed := by
  have hselected := List.find?_some hx
  simp only [Bool.and_eq_true] at hselected
  obtain ⟨⟨hinverse, hrelation⟩, howner⟩ := hselected
  obtain ⟨g, hg, hfar, rfl⟩ :=
    h.mem_leaving_inverse_iff.mp ⟨List.mem_of_find?_eq_some hx, hinverse⟩
  exact ⟨g, hg, hfar, ⟨hrelation, howner⟩, rfl⟩

/-- An entity that an owner of a selected kind owns has an owner edge. -/
theorem IsOver.exists_ownerEdge?_iff (h : s.IsOver db config) :
    (∃ x, s.ownerEdge? e.id f = some x) ↔
      ∃ g, db.Stores g ∧ g.far.id = e.id ∧ s.LeadsToOwner f g := by
  constructor
  · intro ⟨x, hx⟩
    obtain ⟨g, hg, hfar, hleads, -⟩ := h.exists_of_ownerEdge? hx
    exact ⟨g, hg, hfar, hleads⟩
  · intro ⟨g, hg, hfar, hleads⟩
    obtain ⟨hmem, hinverse⟩ := h.mem_leaving_inverse_iff.mpr ⟨g, hg, hfar, rfl⟩
    refine Option.isSome_iff_exists.mp (List.find?_isSome.mpr ⟨g.reversed, hmem, ?_⟩)
    have hrelation : s.traversal.ownerRelation.selects g.reversed.kind := hleads.relation
    have howner : f.selects g.reversed.far.kind := hleads.owner
    rw [hinverse, hrelation, howner]
    rfl

/-! ### Lifting -/

/-- The next entity upwards is the parent. -/
def IsParent (s : Session) (e p : Entity) : Prop :=
  s.parent? e = some p

theorem deterministic_isParent (s : Session) : Deterministic s.IsParent :=
  fun _ _ _ hp hq => Option.some.inj (hp.symm.trans hq)

theorem IsOver.stored_of_isParent (h : s.IsOver db config) (hp : s.IsParent e p) :
    p ∈ db.entities := by
  obtain ⟨x, hx, rfl⟩ := Option.map_eq_some_iff.mp hp
  obtain ⟨g, hg, -, -, rfl⟩ := h.exists_of_ownerEdge? hx
  exact hg.near

theorem ancestor?_eq_some_iff : s.ancestor? category n e = some a ↔
    ∃ path, Climbs s.IsParent category e path a ∧ path.length < n := by
  -- a unit of fuel pays for one entity on the way or for its end
  induction n generalizing e with
  | zero => simp [ancestor?]
  | succ n ih =>
    rw [ancestor?]
    by_cases hcategory : e.kind.category = category
    · rw [if_pos hcategory, Option.some.injEq]
      constructor
      · rintro rfl
        exact ⟨[], .here hcategory, Nat.succ_pos n⟩
      · rintro ⟨path, hclimb, -⟩
        cases hclimb with
        | here _ => rfl
        | step hne _ _ => exact absurd hcategory hne
    · rw [if_neg hcategory]
      cases hparent : s.parent? e with
      | none =>
        simp only [reduceCtorEq, false_iff, not_exists, not_and]
        intro path hclimb
        cases hclimb with
        | here h => exact absurd h hcategory
        | step _ hup _ => simp [IsParent, hparent] at hup
      | some p =>
        rw [ih]
        constructor
        · intro ⟨path, hclimb, hlength⟩
          exact ⟨e :: path, .step hcategory hparent hclimb, Nat.succ_lt_succ hlength⟩
        · intro ⟨path, hclimb, hlength⟩
          cases hclimb with
          | here h => exact absurd h hcategory
          | step _ hup hclimb =>
            obtain rfl := Option.some.inj (hparent.symm.trans hup)
            exact ⟨_, hclimb, Nat.lt_of_succ_lt_succ hlength⟩

namespace IsOver

/-- The way to an ancestor passes stored entities and ends at one. -/
theorem stored_of_climbs (h : s.IsOver db config) (he : e ∈ db.entities) {path : List Entity}
    (hclimb : Climbs s.IsParent category e path a) :
    (∀ x ∈ path, x ∈ db.entities) ∧ a ∈ db.entities := by
  refine hclimb.forall_mem ?_ he
  intro e p _ hp
  exact h.stored_of_isParent hp

/-- The way to an ancestor passes no more entities than there are. -/
theorem length_le_of_climbs (h : s.IsOver db config) (he : e ∈ db.entities) {path : List Entity}
    (hclimb : Climbs s.IsParent category e path a) : path.length ≤ s.catalog.size := by
  have hstored := (h.stored_of_climbs he hclimb).1
  rw [h.holds.size_eq]
  exact (List.subperm_of_subset (hclimb.nodup s.deterministic_isParent) hstored).length_le

/-- An entity is lifted to its nearest ancestor of the category. -/
theorem lift_eq_of_nearest (h : s.IsOver db config) (he : e ∈ db.entities)
    (ha : Nearest s.IsParent category e a) : s.lift category e = a := by
  obtain ⟨path, hclimb⟩ := ha
  have hsome : s.ancestor? category (s.catalog.size + 1) e = some a :=
    ancestor?_eq_some_iff.mpr ⟨path, hclimb, Nat.lt_succ_of_le (h.length_le_of_climbs he hclimb)⟩
  rw [lift, hsome, Option.getD_some]

end IsOver

theorem lift_eq_self (h : ∀ a, ¬ Nearest s.IsParent category e a) : s.lift category e = e := by
  rw [lift]
  cases hancestor : s.ancestor? category (s.catalog.size + 1) e with
  | none => rfl
  | some a =>
    obtain ⟨path, hclimb, -⟩ := ancestor?_eq_some_iff.mp hancestor
    exact absurd ⟨path, hclimb⟩ (h a)

namespace IsOver

theorem stored_lift (h : s.IsOver db config) (he : e ∈ db.entities) (category : String) :
    s.lift category e ∈ db.entities := by
  by_cases hnearest : ∃ a, Nearest s.IsParent category e a
  · obtain ⟨a, path, hclimb⟩ := hnearest
    rw [h.lift_eq_of_nearest he ⟨path, hclimb⟩]
    exact (h.stored_of_climbs he hclimb).2
  · rw [lift_eq_self (not_exists.mp hnearest)]
    exact he

/-- To be lifted to an entity of the category is to have it as nearest ancestor. -/
theorem lift_eq_iff (h : s.IsOver db config) (he : e ∈ db.entities)
    (ha : a.kind.category = category) :
    s.lift category e = a ↔ Nearest s.IsParent category e a := by
  refine ⟨?_, h.lift_eq_of_nearest he⟩
  rintro rfl
  -- without an ancestor of the category `e` is lifted to itself, which then has the category
  by_cases hnearest : ∃ a, Nearest s.IsParent category e a
  · obtain ⟨a, ha⟩ := hnearest
    rwa [h.lift_eq_of_nearest he ha]
  · rw [lift_eq_self (not_exists.mp hnearest)] at ha ⊢
    exact ⟨[], .here ha⟩

end IsOver

end Session

end CodeGraph
