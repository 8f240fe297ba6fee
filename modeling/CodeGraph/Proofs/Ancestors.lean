import CodeGraph.Proofs.Session.Evaluation

/-!
# Chains of ancestors

Above an entity stands its parent, above this its parent, and so on. The chain ends at an entity
without a parent, or it never ends, since ownership may be cyclic. In both cases an entity is lifted
to the first entity of the category in its chain. A chain that meets such an entity meets one before
it has gone through all entities there are, so the bound on the climb cuts off no match.

## Main definitions

* `Session.ancestorAt` — the entity at a depth of the chain
* `Session.IsFirstAt` — the first entity of a category in the chain

## Main results

* `Session.lift_eq_first` — an entity is lifted to the first of its chain, or else to itself
* `Session.lift_eq_first_spiral` — a chain through all entities, which goes round without an end
-/

namespace CodeGraph

/-! ### Climbs -/

section Climbs

variable {up : Entity → Entity → Prop} {category : String} {e a : Entity} {path : List Entity}

theorem Climbs.category_eq (h : Climbs up category e path a) : a.kind.category = category := by
  induction h with
  | here hcategory => exact hcategory
  | step _ _ _ ih => exact ih

theorem Climbs.category_ne_of_mem (h : Climbs up category e path a) :
    ∀ x ∈ path, x.kind.category ≠ category := by
  induction h with
  | here _ => simp
  | step hne _ _ ih => exact List.forall_mem_cons.mpr ⟨hne, ih⟩

/-- The entity that a climb ends at is none of those that it passes. -/
theorem Climbs.nodup_cons (hup : Deterministic up) (h : Climbs up category e path a) :
    (a :: path).Nodup :=
  List.nodup_cons.mpr ⟨fun ha => h.category_ne_of_mem a ha h.category_eq, h.nodup hup⟩

end Climbs

namespace Session

variable {s : Session} {db : Database} {config : Config} {category : String} {e p a x : Entity}
  {depth steps : Nat}

/-! ### Chains -/

/-- The entity at a depth of the chain of `e`: at depth 0 stands `e` itself, and one deeper the
parent. -/
def ancestorAt (s : Session) (e : Entity) : Nat → Option Entity
  | 0 => some e
  | depth + 1 => (s.ancestorAt e depth).bind s.parent?

/-- The chain of an entity goes on with the chain of its parent. -/
theorem ancestorAt_succ (s : Session) (e : Entity) (depth : Nat) :
    s.ancestorAt e (depth + 1) = (s.parent? e).bind fun p => s.ancestorAt p depth := by
  induction depth with
  | zero =>
    rw [ancestorAt, ancestorAt, Option.bind_some]
    exact (Option.bind_fun_some _).symm
  | succ depth ih =>
    rw [ancestorAt, ih, Option.bind_assoc]
    rfl

theorem ancestorAt_succ_of_isParent (h : s.IsParent e p) (depth : Nat) :
    s.ancestorAt e (depth + 1) = s.ancestorAt p depth := by
  rw [ancestorAt_succ, show s.parent? e = some p from h, Option.bind_some]

/-- The entity `a` has the category and stands at a depth of the chain of `e`, and no entity that
stands before it has the category. -/
structure IsFirstAt (s : Session) (category : String) (e : Entity) (depth : Nat) (a : Entity) :
    Prop where
  ancestorAt : s.ancestorAt e depth = some a
  category_eq : a.kind.category = category
  category_ne : ∀ earlier < depth, ∀ x ∈ s.ancestorAt e earlier, x.kind.category ≠ category

/-- If a chain holds an entity of the category, it has a first one. -/
theorem exists_isFirstAt (hx : x ∈ s.ancestorAt e depth) (hcategory : x.kind.category = category) :
    ∃ first ≤ depth, ∃ a, s.IsFirstAt category e first a := by
  classical
  have hmatch : ∃ d, ∃ y ∈ s.ancestorAt e d, y.kind.category = category := ⟨depth, x, hx, hcategory⟩
  obtain ⟨a, ha, hfirst⟩ := Nat.find_spec hmatch
  refine ⟨Nat.find hmatch, Nat.find_min' hmatch ⟨x, hx, hcategory⟩, a, ha, hfirst, ?_⟩
  exact fun earlier hearlier y hy heq => Nat.find_min hmatch hearlier ⟨y, hy, heq⟩

theorem Climbs.ancestorAt_length {path : List Entity}
    (h : Climbs s.IsParent category e path a) : s.ancestorAt e path.length = some a := by
  induction h with
  | here _ => rfl
  | step _ hparent _ ih => rwa [List.length_cons, ancestorAt_succ_of_isParent hparent]

/-- The climb to the first entity of the category takes as many steps as its depth. -/
theorem IsFirstAt.exists_climbs (h : s.IsFirstAt category e depth a) :
    ∃ path, Climbs s.IsParent category e path a ∧ path.length = depth := by
  induction depth generalizing e with
  | zero =>
    obtain rfl := Option.some.inj h.ancestorAt
    exact ⟨[], .here h.category_eq, rfl⟩
  | succ depth ih =>
    have hne : e.kind.category ≠ category := h.category_ne 0 (Nat.succ_pos depth) e rfl
    cases hparent : s.parent? e with
    | none =>
      have hnone := h.ancestorAt
      rw [ancestorAt_succ, hparent] at hnone
      cases hnone
    | some p =>
      have hchain := ancestorAt_succ_of_isParent hparent
      obtain ⟨path, hclimb, hlength⟩ := ih (e := p)
        ⟨hchain depth ▸ h.ancestorAt, h.category_eq, fun earlier hearlier =>
          hchain earlier ▸ h.category_ne (earlier + 1) (Nat.succ_lt_succ hearlier)⟩
      exact ⟨e :: path, .step hne hparent hclimb, by rw [List.length_cons, hlength]⟩

namespace IsOver

/-- A climb passes fewer entities than there are. -/
theorem length_lt_of_climbs (h : s.IsOver db config) (he : e ∈ db.entities) {path : List Entity}
    (hclimb : Climbs s.IsParent category e path a) : path.length < db.entities.length := by
  obtain ⟨hpath, ha⟩ := h.stored_of_climbs he hclimb
  have hstored : ∀ x ∈ a :: path, x ∈ db.entities := List.forall_mem_cons.mpr ⟨ha, hpath⟩
  exact (List.subperm_of_subset (hclimb.nodup_cons s.deterministic_isParent) hstored).length_le

/-- The entities of a chain are stored ones. -/
theorem stored_of_ancestorAt (h : s.IsOver db config) (he : e ∈ db.entities)
    (hx : x ∈ s.ancestorAt e depth) : x ∈ db.entities := by
  cases depth with
  | zero =>
    obtain rfl := Option.some.inj hx
    exact he
  | succ depth =>
    obtain ⟨y, -, hparent⟩ := Option.bind_eq_some_iff.mp hx
    exact h.stored_of_isParent hparent

/-- As many steps as there are entities find whatever more steps would find. -/
theorem ancestor?_eq (h : s.IsOver db config) (he : e ∈ db.entities)
    (hsteps : db.entities.length ≤ steps) :
    s.ancestor? category steps e = s.ancestor? category db.entities.length e := by
  ext a
  simp only [ancestor?_eq_some_iff]
  constructor
  · intro ⟨path, hclimb, _⟩
    exact ⟨path, hclimb, h.length_lt_of_climbs he hclimb⟩
  · intro ⟨path, hclimb, hlength⟩
    exact ⟨path, hclimb, Nat.lt_of_lt_of_le hlength hsteps⟩

end IsOver

/-- The chain of an entity is made of the answers to the question for the parent. If there is an
entity of the category in the chain, however deep, the entity is lifted to the first one, which
comes before the chain has gone through all entities. If there is none, it is lifted to itself. A
climb of any greater number of steps leads to the same entity. -/
theorem lift_eq_first (h : start db config = .ok s) (he : e ∈ db.entities) (category : String) :
    (∀ depth, ∀ x ∈ s.ancestorAt e depth,
      s.parent x.id = .ok (s.ancestorAt e (depth + 1))) ∧
    (∀ depth, ∀ x ∈ s.ancestorAt e depth, x.kind.category = category →
      ∃ first ≤ depth, ∃ a, s.IsFirstAt category e first a ∧ s.lift category e = a ∧
        first < db.entities.length) ∧
    ((∀ depth, ∀ x ∈ s.ancestorAt e depth, x.kind.category ≠ category) →
      s.lift category e = e) ∧
    ∀ steps, db.entities.length ≤ steps →
      (s.ancestor? category steps e).getD e = s.lift category e := by
  have hover := start_eq_ok_iff.mp h
  refine ⟨fun depth x hx => ?_, fun depth x hx hcategory => ?_, fun hnone => ?_,
    fun steps hsteps => ?_⟩
  · rw [parent, hover.queried (hover.stored_of_ancestorAt he hx), ancestorAt,
      Option.mem_def.mp hx]
    rfl
  · obtain ⟨first, hle, a, hfirst⟩ := exists_isFirstAt hx hcategory
    obtain ⟨path, hclimb, rfl⟩ := hfirst.exists_climbs
    exact ⟨path.length, hle, a, hfirst, hover.lift_eq_of_nearest he ⟨path, hclimb⟩,
      hover.length_lt_of_climbs he hclimb⟩
  · refine lift_eq_self fun a ⟨path, hclimb⟩ => ?_
    exact hnone path.length a (Climbs.ancestorAt_length hclimb) hclimb.category_eq
  · have hbound : db.entities.length ≤ s.catalog.size + 1 := hover.holds.size_eq ▸ Nat.le_succ _
    rw [lift, hover.ancestor?_eq he hsteps, hover.ancestor?_eq he hbound]

/-! ### Ownership that goes round -/

namespace Spiral

open Sample (entity)

def function : Entity := entity 1 "f" "f" "Function"

def package : Entity := entity 2 "p" "p" "Package"

def library : Entity := entity 3 "l" "l" "Shared Library"

/-- One entity defines another. -/
def defines (source target : Entity) : Reference :=
  ⟨source.id, target.id, Kind.ofName "Define", library.id, ⟨1, 1⟩⟩

end Spiral

open Spiral in
/-- A function in a package of a library that is defined in this package again. -/
def spiral : Database where
  name := "spiral"
  languages := []
  entities := [function, package, library]
  references := [defines package function, defines library package, defines package library]
  tokensOf _ := none
  isUnresolved _ := false
  isOpen := true

theorem exists_start_spiral : ∃ s, start spiral {} = .ok s :=
  exists_start_iff.mpr ⟨rfl, ⟨_, rfl⟩, by decide, by unfold Reference.IsKnown; decide⟩

open Spiral in
/-- The parents go from the function to the library, and then round. -/
theorem parents_spiral (h : start spiral {} = .ok s) : s.parent? function = some package ∧
    s.parent? package = some library ∧ s.parent? library = some package := by
  have hover := start_eq_ok_iff.mp h
  rw [hover.eq_evaluated, hover.traversal_eq rfl]
  decide +kernel

open Spiral in
/-- The library is found at the end of all entities. A class is not found, however often the chain
goes round. -/
theorem lift_eq_first_spiral : ∃ s, start spiral {} = .ok s ∧ function ∈ spiral.entities ∧
    s.ancestorAt function 2 = some library ∧ s.lift "library" function = library ∧
    (∀ depth, ∃ x, s.ancestorAt function depth = some x) ∧ s.lift "class" function = function := by
  obtain ⟨s, hs⟩ := exists_start_spiral
  have hfunction : function ∈ spiral.entities := by simp [spiral]
  obtain ⟨hpackage, hlibrary, hround⟩ := parents_spiral hs
  have hmiddle : s.ancestorAt function 1 = some package := hpackage
  have hlast : s.ancestorAt function 2 = some library := by
    rw [ancestorAt, hmiddle, Option.bind_some, hlibrary]
  have hchain (depth : Nat) :
      ∃ x ∈ [function, package, library], s.ancestorAt function depth = some x := by
    induction depth with
    | zero => exact ⟨function, by simp, rfl⟩
    | succ depth ih =>
      obtain ⟨x, hx, hdepth⟩ := ih
      simp only [List.mem_cons, List.not_mem_nil, or_false] at hx
      rw [ancestorAt, hdepth, Option.bind_some]
      rcases hx with rfl | rfl | rfl
      · exact ⟨package, by simp, hpackage⟩
      · exact ⟨library, by simp, hlibrary⟩
      · exact ⟨package, by simp, hround⟩
  obtain ⟨-, hmatch, -, -⟩ := lift_eq_first hs hfunction "library"
  obtain ⟨-, -, hnone, -⟩ := lift_eq_first hs hfunction "class"
  refine ⟨s, hs, hfunction, hlast, ?_, fun depth => ?_, hnone fun depth x hx => ?_⟩
  · obtain ⟨first, hle, a, hfirst, hlift, -⟩ := hmatch 2 library hlast (by decide +kernel)
    have ha := hfirst.ancestorAt
    have hcategory := hfirst.category_eq
    -- the entities at depth 0 and 1 are no libraries
    obtain rfl | rfl | rfl : first = 0 ∨ first = 1 ∨ first = 2 := by omega
    · obtain rfl := Option.some.inj ha
      exact absurd hcategory (by decide +kernel)
    · obtain rfl := Option.some.inj (hmiddle.symm.trans ha)
      exact absurd hcategory (by decide +kernel)
    · rw [hlift, Option.some.inj (hlast.symm.trans ha)]
  · obtain ⟨x, -, hx⟩ := hchain depth
    exact ⟨x, hx⟩
  · obtain ⟨y, hy, hdepth⟩ := hchain depth
    have hclass : ∀ z ∈ [function, package, library], z.kind.category ≠ "class" := by
      decide +kernel
    exact Option.some.inj (hdepth.symm.trans hx) ▸ hclass y hy

end Session

end CodeGraph
