import CodeGraph.Proofs.Session.Filters

/-!
# Entities by name

Over a started session a selection gives stored entities, and an entity is found by its short name
unless the name is empty or no stored entity has it together with a selected kind.

## Main definitions

* `Database.Lacks` — why a database has no entity to show for a name

## Main results

* `Session.IsOver.require_eq_error_iff` — an entity is refused for lack of it only
* `Session.IsOver.stored_of_require` — what is found is stored under the name
-/

namespace CodeGraph

/-- Why a database has no entity to show for a short name and a filter. -/
inductive Database.Lacks (db : Database) (name : String) (f : KindFilter) (what : String) :
    Error → Prop where
  | emptyName (h : name = "") : Lacks db name f what .emptyName
  /-- No stored entity has the name and a selected kind. -/
  | notFound (hname : name ≠ "") (h : ∀ e ∈ db.entities, e.name = name → ¬ f.selects e.kind) :
    Lacks db name f what (.notFound what name)

namespace Catalog

variable {c : Catalog} {es : List Entity} {e : Entity} {name : String} {f : KindFilter}

theorem Holds.stored_of_select (h : c.Holds es) (he : e ∈ c.select f) : e ∈ es :=
  h.mem_iff.mp (List.mem_filter.mp he).1

theorem Holds.mem_filed_byName (h : c.Holds es) :
    e ∈ c.byName.filed name ↔ e ∈ es ∧ e.name = name := by
  rw [h.byName, Register.filed_ofList, List.mem_filter, h.mem_iff, decide_eq_true_iff]

theorem Holds.find?_eq_none_iff (h : c.Holds es) :
    c.find? name f = none ↔ ∀ e ∈ es, e.name = name → ¬ f.selects e.kind := by
  simp only [find?, List.find?_eq_none, h.mem_filed_byName, and_imp]

theorem Holds.stored_of_find? (h : c.Holds es) (hfind : c.find? name f = some e) :
    e ∈ es ∧ e.name = name ∧ f.selects e.kind := by
  obtain ⟨hmem, hname⟩ := h.mem_filed_byName.mp (List.mem_of_find?_eq_some hfind)
  have hselects : f.selects e.kind :=
    List.find?_some (p := fun e : Entity => f.selects e.kind) hfind
  exact ⟨hmem, hname, hselects⟩

end Catalog

namespace Session.IsOver

variable {s : Session} {db : Database} {config : Config} {e : Entity} {error : Error}
  {name filter : String} {f : KindFilter}

theorem select_eq_ok (h : s.IsOver db config) (hf : KindFilter.parse filter = .ok f) :
    s.select filter = .ok (s.catalog.select f) := by
  rw [select, hf]
  simp only [bind, Except.bind, selectBy, h.ensureOpen, pure, Except.pure]

/-- The name is looked at first, then the entities that have it. -/
theorem require_eq (h : s.IsOver db config) (hf : KindFilter.parse filter = .ok f)
    (name what : String) : s.require name (some filter) what =
      if name = "" then .error .emptyName
      else match s.catalog.find? name f with
        | some e => .ok e
        | none => .error (.notFound what name) := by
  by_cases hname : name = ""
  · subst hname
    rw [require, find, nameFilter, h.ensureOpen]
    rfl
  · have hempty : name.isEmpty = false := by simpa using hname
    simp only [require, find, nameFilter, h.ensureOpen, hempty, KindFilter.parse?, hf, bind,
      Except.bind, pure, Except.pure, if_neg hname, Bool.false_eq_true, if_false]
    -- the search answers `none`, and only the demand makes a refusal of it
    cases s.catalog.find? name f <;> rfl

/-- An entity is refused for lack of it only. -/
theorem require_eq_error_iff (h : s.IsOver db config) (hf : KindFilter.parse filter = .ok f)
    {what : String} :
    s.require name (some filter) what = .error error ↔ db.Lacks name f what error := by
  rw [h.require_eq hf]
  constructor
  · intro herror
    split at herror
    next hname =>
      cases herror
      exact .emptyName hname
    next hname =>
      split at herror
      next => cases herror
      next hnone =>
        cases herror
        exact .notFound hname (h.holds.find?_eq_none_iff.mp hnone)
  · intro hlacks
    cases hlacks with
    | emptyName hname => rw [if_pos hname]
    | notFound hname hnone => rw [if_neg hname, h.holds.find?_eq_none_iff.mpr hnone]

theorem stored_of_require (h : s.IsOver db config) (hf : KindFilter.parse filter = .ok f)
    {what : String} (hfound : s.require name (some filter) what = .ok e) :
    e ∈ db.entities ∧ e.name = name ∧ f.selects e.kind := by
  rw [h.require_eq hf] at hfound
  split at hfound
  next => cases hfound
  next =>
    split at hfound
    next hfind =>
      cases hfound
      exact h.holds.stored_of_find? hfind
    next => cases hfound

end Session.IsOver

end CodeGraph
