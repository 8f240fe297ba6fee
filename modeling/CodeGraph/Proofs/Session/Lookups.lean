import CodeGraph.Proofs.Session.Names

/-!
# Look-ups and scans

The registers of a catalogue save a scan of the entities, and no more: every look-up answers what a
scan of the stored entities would, in whatever order they are stored.

## Main definitions

* `Catalog.IsLowest` — what a search for the entity of lowest number comes to
* `Catalog.Scans` — the look-ups of a catalogue answer as scans of a list of entities
* `Session.LooksUp` — a session answers from its catalogue

## Main results

* `Catalog.Holds.scans` — a catalogue answers as scans of the entities that it was made of
* `Session.lookups_exact` — so does every session over these entities
-/

namespace CodeGraph

namespace Catalog

variable {c : Catalog} {es : List Entity} {e : Entity}

/-- The search among `es` for the entity of lowest number with a property comes to `found`. -/
structure IsLowest (es : List Entity) (p : Entity → Prop) (found : Option Entity) : Prop where
  eq_some_iff : ∀ e, found = some e ↔
    (e ∈ es ∧ p e) ∧ ∀ x ∈ es, p x → e.id.value ≤ x.id.value
  eq_none_iff : found = none ↔ ∀ x ∈ es, ¬ p x

/-- The look-ups of the catalogue answer as scans of `es` do. -/
structure Scans (c : Catalog) (es : List Entity) : Prop where
  entity_eq_some_iff : ∀ id e, c.entity? id = some e ↔ e ∈ es ∧ e.id = id
  entity_eq_none_iff : ∀ id, c.entity? id = none ↔ ∀ e ∈ es, e.id ≠ id
  select_perm : ∀ f, (c.select f).Perm (es.filter (f.selects ·.kind))
  select_ordered : ∀ f, (c.select f).Pairwise fun a b => a.id.value < b.id.value
  find : ∀ name f, IsLowest es (fun e => e.name = name ∧ f.selects e.kind) (c.find? name f)
  find_eq : ∀ name f, c.find? name f = (c.select f).find? (·.name = name)
  findLongname : ∀ longname f,
    IsLowest es (fun e => e.longname = longname ∧ f.selects e.kind) (c.findLongname? longname f)
  findLongname_eq : ∀ longname f,
    c.findLongname? longname f = (c.select f).find? (·.longname = longname)

namespace Holds

/-- The first entity of the catalogue with a property is that of lowest number. -/
theorem isLowest_find? (h : c.Holds es) (p : Entity → Bool) :
    IsLowest es (fun e => p e) (c.entities.find? p) := by
  have hnone : c.entities.find? p = none ↔ ∀ x ∈ es, ¬ p x := by
    simp only [List.find?_eq_none, h.mem_iff]
  have hlowest {e : Entity} (hfind : c.entities.find? p = some e) :
      ∀ x ∈ es, p x → e.id.value ≤ x.id.value := by
    obtain ⟨-, before, after, hlist, hbefore⟩ := List.find?_eq_some_iff_append.mp hfind
    have hordered := h.ordered
    rw [hlist, List.pairwise_append, List.pairwise_cons] at hordered
    intro x hx hpx
    rw [← h.mem_iff, hlist, List.mem_append, List.mem_cons] at hx
    -- what stands before the entity found does not have the property
    rcases hx with hx | rfl | hx
    · exact absurd (hbefore x hx) (by simp [hpx])
    · exact UInt32.le_refl _
    · exact UInt32.le_of_lt (hordered.2.1.1 x hx)
  refine ⟨fun e => ⟨fun hfind => ?_, fun ⟨⟨hmem, hp⟩, hleast⟩ => ?_⟩, hnone⟩
  · exact ⟨⟨h.mem_iff.mp (List.mem_of_find?_eq_some hfind), List.find?_some hfind⟩,
      hlowest hfind⟩
  · cases hfind : c.entities.find? p with
    | none => exact absurd hp (hnone.mp hfind e hmem)
    | some b =>
      have hb : b ∈ es := h.mem_iff.mp (List.mem_of_find?_eq_some hfind)
      have hvalue := UInt32.le_antisymm (hlowest hfind e hmem hp)
        (hleast b hb (List.find?_some hfind))
      rw [h.eq_of_id_eq hb hmem (value_inj.mp hvalue)]

theorem find?_eq (h : c.Holds es) (name : String) (f : KindFilter) :
    c.find? name f = c.entities.find? fun e => e.name = name ∧ f.selects e.kind := by
  rw [find?, h.byName, Register.filed_ofList, List.find?_filter]
  simp

theorem findLongname?_eq (h : c.Holds es) (longname : String) (f : KindFilter) :
    c.findLongname? longname f =
      c.entities.find? fun e => e.longname = longname ∧ f.selects e.kind := by
  rw [findLongname?, h.byLongname, Register.filed_ofList, List.find?_filter]
  simp

/-- A catalogue answers as scans of the entities that it was made of. -/
theorem scans (h : c.Holds es) : c.Scans es where
  entity_eq_some_iff _ _ := h.entity?_eq_some_iff
  entity_eq_none_iff id := by
    simp only [Option.eq_none_iff_forall_ne_some, ne_eq, h.entity?_eq_some_iff, not_and]
  select_perm _ := h.perm.filter _
  select_ordered _ := h.ordered.filter _
  find name f := by
    rw [h.find?_eq]
    simpa using h.isLowest_find? fun e => e.name = name ∧ f.selects e.kind
  find_eq name f := by
    rw [h.find?_eq, select, List.find?_filter]
    simp [and_comm]
  findLongname longname f := by
    rw [h.findLongname?_eq]
    simpa using h.isLowest_find? fun e => e.longname = longname ∧ f.selects e.kind
  findLongname_eq longname f := by
    rw [h.findLongname?_eq, select, List.find?_filter]
    simp [and_comm]

end Holds

end Catalog

namespace Session

variable {s : Session} {db : Database} {config : Config} {es : List Entity} {f : KindFilter}
  {filter : Option String}

/-- The session answers from its catalogue. The entity of a name is refused to one who must have it
exactly if there is none. -/
structure LooksUp (s : Session) : Prop where
  selectBy : ∀ f, s.selectBy f = .ok (s.catalog.select f)
  select : ∀ expr f, KindFilter.parse expr = .ok f → s.select expr = .ok (s.catalog.select f)
  find : ∀ name filter f, name ≠ "" → KindFilter.parse? filter = .ok f →
    s.find name filter = .ok (s.catalog.find? name f)
  findLongname : ∀ longname filter f, longname ≠ "" → KindFilter.parse? filter = .ok f →
    s.findLongname longname filter = .ok (s.catalog.findLongname? longname f)
  require_eq_ok_iff : ∀ name filter what e,
    s.require name filter what = .ok e ↔ s.find name filter = .ok (some e)
  require_eq_notFound_iff : ∀ name filter f what, name ≠ "" → KindFilter.parse? filter = .ok f →
    (s.require name filter what = .error (.notFound what name) ↔ s.find name filter = .ok none)

theorem IsOver.nameFilter_eq_ok (h : s.IsOver db config) {name : String} (hname : name ≠ "")
    (hf : KindFilter.parse? filter = .ok f) : s.nameFilter name filter = .ok f := by
  have hempty : name.isEmpty = false := by simpa using hname
  simp only [nameFilter, h.ensureOpen, hempty, hf, bind, Except.bind, Bool.false_eq_true, if_false]

theorem require_eq_ok_iff (s : Session) (name : String) (filter : Option String) (what : String)
    (e : Entity) : s.require name filter what = .ok e ↔ s.find name filter = .ok (some e) := by
  simp only [require, bind, Except.bind]
  cases s.find name filter with
  | error _ => simp
  | ok found => cases found <;> simp [pure, Except.pure, throw, throwThe, MonadExceptOf.throw]

theorem IsOver.looksUp (h : s.IsOver db config) : s.LooksUp := by
  have hfind {name : String} {filter : Option String} {f : KindFilter} (hname : name ≠ "")
      (hf : KindFilter.parse? filter = .ok f) :
      s.find name filter = .ok (s.catalog.find? name f) := by
    rw [Session.find, h.nameFilter_eq_ok hname hf]
    rfl
  constructor
  case selectBy =>
    intro f
    rw [Session.selectBy, h.ensureOpen]
    rfl
  case select => exact fun expr f hf => h.select_eq_ok hf
  case find => exact fun name filter f hname hf => hfind hname hf
  case findLongname =>
    intro longname filter f hname hf
    rw [Session.findLongname, h.nameFilter_eq_ok hname hf]
    rfl
  case require_eq_ok_iff => exact s.require_eq_ok_iff
  case require_eq_notFound_iff =>
    intro name filter f what hname hf
    rw [require, hfind hname hf]
    cases s.catalog.find? name f with
    | none => simp [bind, Except.bind, throw, throwThe, MonadExceptOf.throw]
    | some e => simp [bind, Except.bind, pure, Except.pure]

/-- Entities with distinct numbers have a catalogue, in whatever order they are stored. Its look-ups
are those of a scan, and every session over the entities answers from it. -/
theorem lookups_exact (hnodup : (es.map (·.id)).Nodup) :
    ∃ c, Catalog.ofEntities es = .ok c ∧ c.Scans es ∧
      ∀ db config s, db.entities = es → start db config = .ok s → s.catalog = c ∧ s.LooksUp := by
  obtain ⟨c, hc⟩ := Catalog.exists_ofEntities_iff.mpr hnodup
  refine ⟨c, hc, (Catalog.holds_of_ofEntities hc).scans, ?_⟩
  rintro db config s rfl hs
  have hover := start_eq_ok_iff.mp hs
  exact ⟨Except.ok.inj (hover.catalog.symm.trans hc), hover.looksUp⟩

/-! ### Entities that share a name -/

namespace Shift

open Sample (entity)

def laterInit : Entity := entity 30 "init" "b.Worker.init" "Method"

def worker : Entity := entity 10 "Worker" "a.Worker" "Class"

def init : Entity := entity 20 "init" "a.Worker.init" "Public Method"

def lostWorker : Entity := entity 40 "Worker" "b.Worker" "Unresolved Class"

end Shift

open Shift in
/-- Two names of two entities each. What is stored first is not what is found first. -/
def shift : Database where
  name := "shift"
  languages := []
  entities := [laterInit, worker, init, lostWorker]
  references := []
  tokensOf _ := none
  isUnresolved _ := false
  isOpen := true

theorem exists_start_shift : ∃ s, start shift {} = .ok s :=
  exists_start_iff.mpr ⟨rfl, ⟨_, rfl⟩, by decide, by simp [shift]⟩

open Shift in
/-- Of two methods of one name that of the lower number is found, of two classes that of a selected
kind. -/
theorem lookups_exact_shift : (shift.entities.map (·.id)).Nodup ∧
    ∃ s, start shift {} = .ok s ∧ s.find "init" none = .ok (some init) ∧
      s.find "Worker" (some "unresolved") = .ok (some lostWorker) ∧
      s.require "go" none "method" = .error (.notFound "method" "go") ∧
      s.catalog.entity? ⟨30⟩ = some laterInit := by
  have hnodup : (shift.entities.map (·.id)).Nodup := by decide
  obtain ⟨s, hs⟩ := exists_start_shift
  obtain ⟨c, -, hscans, hsessions⟩ := lookups_exact hnodup
  obtain ⟨rfl, hlooksUp⟩ := hsessions shift {} s rfl hs
  have hinit : s.catalog.find? "init" KindFilter.all = some init :=
    ((hscans.find _ _).eq_some_iff init).mpr (by decide +kernel)
  have hlost : s.catalog.find? "Worker" (wordFilter "unresolved") = some lostWorker :=
    ((hscans.find _ _).eq_some_iff lostWorker).mpr (by decide +kernel)
  have hmissing : s.catalog.find? "go" KindFilter.all = none :=
    (hscans.find _ _).eq_none_iff.mpr (by decide +kernel)
  have hparse : KindFilter.parse? (some "unresolved") = .ok (wordFilter "unresolved") :=
    parse_of_isPlain (by decide)
  refine ⟨hnodup, s, hs, ?_, ?_, ?_, ?_⟩
  · rw [hlooksUp.find "init" none _ (by decide) rfl, hinit]
  · rw [hlooksUp.find "Worker" _ _ (by decide) hparse, hlost]
  · rw [hlooksUp.require_eq_notFound_iff "go" none _ "method" (by decide) rfl,
      hlooksUp.find "go" none _ (by decide) rfl, hmissing]
  · exact (hscans.entity_eq_some_iff _ _).mpr ⟨by simp [shift], rfl⟩

end Session

end CodeGraph
