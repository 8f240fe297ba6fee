import CodeGraph.Session
import CodeGraph.Proofs.Edge.Index

/-!
# The start of a session

A session starts over an open database whose settings, entities and references are sound, and then
holds what they give.

## Main definitions

* `Session.IsOver` — the session is the one that starts over a database

## Main results

* `Traversal.ofConfig_eq_ok_iff` — the filters are those of the settings
* `Traversal.exists_ofConfig` — valid settings have filters
* `Session.start_eq_ok_iff` — what a started session consists of
* `Session.exists_start_iff` — when a session starts
* `Session.IsOver.queried` — a started session knows the stored entities
-/

namespace CodeGraph

/-! ### The filters of the settings -/

namespace Config

variable {c : Config} {expr : String}

theorem forM_parse_eq_ok_iff {exprs : List String} :
    exprs.forM (fun expr => discard (KindFilter.parse expr)) = .ok () ↔
      ∀ expr ∈ exprs, ∃ f, KindFilter.parse expr = .ok f := by
  induction exprs with
  | nil => simp [pure, Except.pure]
  | cons expr exprs ih =>
    rw [List.forM, List.forall_mem_cons, ← ih]
    cases KindFilter.parse expr with
    | error e => simp [discard, Functor.mapConst, Except.map, bind, Except.bind]
    | ok f => simp [discard, Functor.mapConst, Except.map, bind, Except.bind]

/-- The filters of valid settings parse. -/
theorem exists_parse_of_validate (h : c.validate = .ok ()) (hexpr : expr ∈ c.expressions) :
    ∃ f, KindFilter.parse expr = .ok f := by
  simp only [validate, bind, Except.bind] at h
  split at h
  · contradiction
  next hexprs => exact forM_parse_eq_ok_iff.mp hexprs expr hexpr

end Config

namespace Traversal

variable {c : GraphConfig} {t : Traversal} {config : Config} {expr : String} {o : Option KindFilter}

theorem optional_eq_ok_iff : optional expr = .ok o ↔
    ∃ f, KindFilter.parse expr = .ok f ∧ o = if f.isAll then none else some f := by
  simp only [optional, bind, Except.bind, pure, Except.pure]
  cases KindFilter.parse expr with
  | error e => simp
  | ok f =>
    simp only [Except.ok.injEq, exists_eq_left']
    exact eq_comm

/-- As an option a filter without alternatives counts as absent, though it selects every kind. -/
theorem exists_selects_iff (h : optional expr = .ok o) (k : Kind) :
    (∃ f, KindFilter.parse expr = .ok f ∧ ¬ f.isAll ∧ f.selects k) ↔
      ∃ f, o = some f ∧ f.selects k := by
  obtain ⟨f, hf, rfl⟩ := optional_eq_ok_iff.mp h
  rw [hf]
  by_cases hall : f.isAll <;> simp [hall]

theorem ofConfig_eq_ok_iff : ofConfig c = .ok t ↔
    KindFilter.parse ownerRelationText = .ok t.ownerRelation ∧
      KindFilter.parse c.ownerKinds = .ok t.ownerKinds ∧
      optional c.containment = .ok t.containment ∧
      optional c.dependencyExclude = .ok t.dependencyExclude := by
  simp only [ofConfig, bind, Except.bind, pure, Except.pure]
  cases KindFilter.parse ownerRelationText with
  | error e => simp
  | ok ownerRelation =>
    cases KindFilter.parse c.ownerKinds with
    | error e => simp
    | ok ownerKinds =>
      cases optional c.containment with
      | error e => simp
      | ok containment =>
        cases optional c.dependencyExclude with
        | error e => simp
        | ok dependencyExclude =>
          simp only [Except.ok.injEq]
          constructor
          · rintro rfl
            exact ⟨rfl, rfl, rfl, rfl⟩
          · rintro ⟨rfl, rfl, rfl, rfl⟩
            rfl

theorem exists_optional (h : ∃ f, KindFilter.parse expr = .ok f) : ∃ o, optional expr = .ok o := by
  obtain ⟨f, hf⟩ := h
  exact ⟨_, optional_eq_ok_iff.mpr ⟨f, hf, rfl⟩⟩

/-- Valid settings have filters for a traversal. -/
theorem exists_ofConfig (h : config.validate = .ok ()) : ∃ t, ofConfig config.graph = .ok t := by
  have hparse (expr : String) (hexpr : expr ∈ config.expressions) :=
    Config.exists_parse_of_validate h hexpr
  simp only [Config.expressions, List.forall_mem_cons] at hparse
  obtain ⟨-, -, -, -, ⟨kinds, hkinds⟩, hcontainment, hexclude, -⟩ := hparse
  obtain ⟨containment, hcontainment⟩ := exists_optional hcontainment
  obtain ⟨exclude, hexclude⟩ := exists_optional hexclude
  obtain ⟨owner, howner⟩ : ∃ f, KindFilter.parse ownerRelationText = .ok f := ⟨_, rfl⟩
  exact ⟨⟨owner, kinds, containment, exclude⟩, ofConfig_eq_ok_iff.mpr
    ⟨howner, hkinds, hcontainment, hexclude⟩⟩

end Traversal

namespace Session

variable {s : Session} {db : Database} {config : Config} {e : Entity} {id : EntityId}

/-! ### Started sessions -/

/-- The session is the one that starts over `db` with the settings `config`. -/
structure IsOver (s : Session) (db : Database) (config : Config) : Prop where
  database : s.database = db
  isOpen : db.isOpen
  traversal : Traversal.ofConfig config.graph = .ok s.traversal
  catalog : Catalog.ofEntities db.entities = .ok s.catalog
  index : EdgeIndex.ofReferences s.catalog db.references = .ok s.index

theorem start_eq_ok_iff : start db config = .ok s ↔ s.IsOver db config := by
  constructor
  · intro h
    simp only [start, bind, Except.bind] at h
    split at h
    · simp at h
    next hopen =>
      split at h
      · simp at h
      next traversal htraversal =>
        split at h
        · simp at h
        next catalog hcatalog =>
          split at h
          · simp at h
          next index hindex =>
            cases h
            refine ⟨rfl, ?_, htraversal, hcatalog, hindex⟩
            by_contra hclosed
            simp [hclosed] at hopen
  · rintro ⟨rfl, hopen, htraversal, hcatalog, hindex⟩
    simp [start, hopen, htraversal, hcatalog, hindex, bind, Except.bind, pure, Except.pure]

/-- A session starts if the database is open, the filters parse, the entities have distinct numbers
and the references name stored entities. -/
theorem exists_start_iff : (∃ s, start db config = .ok s) ↔
    db.isOpen ∧ (∃ t, Traversal.ofConfig config.graph = .ok t) ∧
      (db.entities.map (·.id)).Nodup ∧
      ∀ r ∈ db.references, r.IsKnown (db.entities.map (·.id)) := by
  simp only [start_eq_ok_iff]
  constructor
  · intro ⟨s, h⟩
    have hholds := Catalog.holds_of_ofEntities h.catalog
    refine ⟨h.isOpen, ⟨_, h.traversal⟩, hholds.nodup_id, ?_⟩
    exact (EdgeIndex.exists_ofReferences_iff hholds).mp ⟨_, h.index⟩
  · intro ⟨hopen, ⟨traversal, htraversal⟩, hnodup, hknown⟩
    obtain ⟨catalog, hcatalog⟩ := Catalog.exists_ofEntities_iff.mpr hnodup
    obtain ⟨index, hindex⟩ := (EdgeIndex.exists_ofReferences_iff
      (Catalog.holds_of_ofEntities hcatalog)).mpr hknown
    exact ⟨⟨db, traversal, catalog, index⟩, rfl, hopen, htraversal, hcatalog, hindex⟩

/-! ### The default settings -/

/-- The filter of a single wanted word. -/
def wordFilter (w : String) : KindFilter :=
  ⟨[⟨[w], []⟩]⟩

theorem selects_wordFilter (w : String) (k : Kind) : (wordFilter w).selects k = k.hasWord w := by
  simp [wordFilter, KindFilter.selects, KindFilter.isAll, Alternative.selects]

theorem ofConfig_default : Traversal.ofConfig {} = .ok ⟨wordFilter "definein", wordFilter "class",
    some (wordFilter "define"), some (wordFilter "define")⟩ :=
  rfl

theorem IsOver.traversal_eq (h : s.IsOver db config) (hgraph : config.graph = {}) :
    s.traversal = ⟨wordFilter "definein", wordFilter "class", some (wordFilter "define"),
      some (wordFilter "define")⟩ := by
  have htraversal := h.traversal
  rw [hgraph, ofConfig_default] at htraversal
  exact (Except.ok.inj htraversal).symm

/-! ### A small database -/

namespace Sample

/-- An entity without declared types. -/
def entity (id : UInt32) (name longname kind : String) : Entity :=
  ⟨⟨id⟩, name, longname, Kind.ofName kind, []⟩

def file : Entity := entity 1 "AB.src" "src/AB.src" "File"

def classA : Entity := entity 2 "A" "A" "Class"

def run : Entity := entity 3 "run" "A.run" "Method"

def classB : Entity := entity 4 "B" "B" "Class"

def go : Entity := entity 5 "go" "B.go" "Public Method"

/-- A reference in the file. -/
def reference (source target : Entity) (kind : String) (line : UInt32) : Reference :=
  ⟨source.id, target.id, Kind.ofName kind, file.id, ⟨line, 5⟩⟩

/-- The edge of the first reference. -/
def call : Edge :=
  ⟨0, .forward, Kind.ofName "Call Virtual", run, go, file, ⟨4, 5⟩⟩

end Sample

open Sample in
/-- Two classes of one file. The method of the first calls itself, and at one place it calls the
method of the second twice. -/
def sample : Database where
  name := "sample"
  languages := []
  entities := [classB, file, classA, go, run]
  references := [reference run go "Call Virtual" 4, reference run go "Call Virtual" 4,
    reference run run "Call" 3, reference file classB "Define" 6, reference file classA "Define" 1,
    reference classA run "Define" 2, reference classB go "Define" 7]
  tokensOf _ := none
  isUnresolved _ := false
  isOpen := true

theorem exists_start_sample : ∃ s, start sample {} = .ok s :=
  exists_start_iff.mpr ⟨rfl, ⟨_, rfl⟩, by decide, by unfold Reference.IsKnown; decide⟩

/-! ### Stored entities -/

namespace IsOver

theorem holds (h : s.IsOver db config) : s.catalog.Holds db.entities :=
  Catalog.holds_of_ofEntities h.catalog

theorem known_eq_ok_iff (h : s.IsOver db config) :
    s.known id = .ok e ↔ e ∈ db.entities ∧ e.id = id := by
  rw [← h.holds.entity?_eq_some_iff, known]
  cases s.catalog.entity? id <;> simp

theorem ensureOpen (h : s.IsOver db config) : s.ensureOpen = .ok () := by
  simp [Session.ensureOpen, h.database, h.isOpen]

theorem queried_eq_ok_iff (h : s.IsOver db config) :
    s.queried id = .ok e ↔ e ∈ db.entities ∧ e.id = id := by
  rw [← h.known_eq_ok_iff, Session.queried, h.ensureOpen]
  rfl

/-- A started session knows the stored entities. -/
theorem queried (h : s.IsOver db config) (hmem : e ∈ db.entities) :
    s.queried e.id = .ok e :=
  h.queried_eq_ok_iff.mpr ⟨hmem, rfl⟩

end IsOver

end Session

end CodeGraph
