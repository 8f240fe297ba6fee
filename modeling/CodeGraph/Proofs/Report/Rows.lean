import CodeGraph.Proofs.Dependency.Aggregation
import CodeGraph.Proofs.Except
import CodeGraph.Proofs.Session.Filters
import CodeGraph.Report

/-!
# The rows of reports

Whatever a report is made of, its rows have a field for each title of the header. Over a started
session the rows of stored entities can always be made, and those of other entities never.

## Main definitions

* `Session.reportWords` — the words by which reports select
* `Session.ownerName` — the long name of the owning class of an entity
* `Session.callRow` — the row of a call, seen from one of its ends

## Main results

* `Session.length_of_mem_rows` — each row is as long as the header
* `Session.entityRows_of_queried_eq_error` — no rows of an entity that cannot be asked about
* `Session.IsOver.callRows_eq_ok` — the rows of calls
* `Session.IsOver.exists_rows` — the rows of stored entities can be made
-/

namespace CodeGraph

namespace Session

variable {s : Session} {db : Database} {config : Config} {kind : ReportKind} {e : Entity}
  {scope : List Entity} {rows : List (List String)} {row : List String} {relation : String}

/-! ### The length of a row -/

theorem length_of_mem_classRows (h : s.classRows e = .ok rows) (hrow : row ∈ rows) :
    row.length = 4 := by
  obtain ⟨defined, -, h⟩ := Except.bind_eq_ok_iff.mp h
  cases hhead : defined.head? with
  | none =>
    rw [hhead] at h
    cases h
    rw [List.mem_singleton.mp hrow]
    rfl
  | some r =>
    rw [hhead] at h
    cases h
    rw [List.mem_singleton.mp hrow]
    rfl

theorem length_of_mem_methodRows (h : s.methodRows e = .ok rows) (hrow : row ∈ rows) :
    row.length = 5 := by
  obtain ⟨methods, -, h⟩ := Except.bind_eq_ok_iff.mp h
  cases h
  obtain ⟨r, -, rfl⟩ := List.mem_map.mp hrow
  rfl

theorem length_of_mem_callRows (h : s.callRows relation e = .ok rows) (hrow : row ∈ rows) :
    row.length = 6 := by
  obtain ⟨ownClass, -, h⟩ := Except.bind_eq_ok_iff.mp h
  obtain ⟨calls, -, h⟩ := Except.bind_eq_ok_iff.mp h
  obtain ⟨r, -, hr⟩ := Except.exists_of_mem_mapM h hrow
  obtain ⟨farClass, -, hr⟩ := Except.bind_eq_ok_iff.mp hr
  cases hr
  rfl

theorem length_of_mem_dependencyRows (h : s.dependencyRows e = .ok rows) (hrow : row ∈ rows) :
    row.length = 3 := by
  obtain ⟨map, -, h⟩ := Except.bind_eq_ok_iff.mp h
  cases h
  obtain ⟨entry, -, rfl⟩ := List.mem_map.mp hrow
  rfl

theorem length_of_mem_referenceRows (h : s.referenceRows e = .ok rows) (hrow : row ∈ rows) :
    row.length = 6 := by
  obtain ⟨refs, -, h⟩ := Except.bind_eq_ok_iff.mp h
  cases h
  obtain ⟨r, -, rfl⟩ := List.mem_map.mp hrow
  rfl

theorem length_of_mem_entityRows (h : s.entityRows kind e = .ok rows) (hrow : row ∈ rows) :
    row.length = kind.header.length := by
  cases kind with
  | classes => exact length_of_mem_classRows h hrow
  | methods => exact length_of_mem_methodRows h hrow
  | calls => exact length_of_mem_callRows h hrow
  | calledBy => exact length_of_mem_callRows h hrow
  | depends => exact length_of_mem_dependencyRows h hrow
  | refs => exact length_of_mem_referenceRows h hrow

/-- Each row of a report is as long as its header. -/
theorem length_of_mem_rows (h : s.rows kind scope = .ok rows) (hrow : row ∈ rows) :
    row.length = kind.header.length := by
  obtain ⟨blocks, hblocks, h⟩ := Except.bind_eq_ok_iff.mp h
  cases h
  rcases List.mem_cons.mp hrow with rfl | hrow
  · rfl
  · obtain ⟨block, hblock, hrow⟩ := List.mem_flatten.mp hrow
    obtain ⟨e, -, he⟩ := Except.exists_of_mem_mapM hblocks hblock
    exact length_of_mem_entityRows he hrow

/-! ### Entities of which no rows can be made -/

/-- The words by which reports select relations and far ends. -/
def reportWords : List String :=
  ["definein", "define", "method", "call", "callby"]

theorem parse_of_mem_reportWords (h : relation ∈ reportWords) :
    KindFilter.parse relation = .ok (wordFilter relation) := by
  refine parse_of_isPlain ?_
  revert relation
  decide

section Unanswered

variable {id : EntityId} {error : Error} {kinds entityKinds : Option String} {k l : KindFilter}

theorem refs_of_queried_eq_error (h : s.queried id = .error error)
    (hkinds : KindFilter.parse? kinds = .ok k)
    (hentityKinds : KindFilter.parse? entityKinds = .ok l) (unique : Bool) :
    s.refs id kinds entityKinds unique = .error error := by
  rw [refs, hkinds, hentityKinds]
  simp only [bind, Except.bind, refsBy, h]

theorem ownerClass_of_queried_eq_error (h : s.queried id = .error error) :
    s.ownerClass id = .error error := by
  rw [ownerClass, h]
  rfl

theorem aggregate_of_queried_eq_error (h : s.queried id = .error error) (direction : Direction) :
    s.aggregate direction id = .error error := by
  rw [aggregate, h]
  rfl

/-- The rows of an entity begin with a question about it. -/
theorem entityRows_of_queried_eq_error (h : s.queried e.id = .error error) (kind : ReportKind) :
    s.entityRows kind e = .error error := by
  have hword {w : String} (hw : w ∈ reportWords) :
      KindFilter.parse? (some w) = .ok (wordFilter w) :=
    parse_of_mem_reportWords hw
  have hcalls (relation : String) : s.callRows relation e = .error error := by
    rw [callRows, className, ownerClass_of_queried_eq_error h]
    rfl
  -- the first question is for references, for the class that owns the entity, or for dependencies
  cases kind with
  | classes =>
    rw [entityRows, classRows, refs_of_queried_eq_error h (hword (by decide)) rfl]
    rfl
  | methods =>
    rw [entityRows, methodRows,
      refs_of_queried_eq_error h (hword (by decide)) (hword (by decide))]
    rfl
  | calls => exact hcalls "call"
  | calledBy => exact hcalls "callby"
  | depends =>
    rw [entityRows, dependencyRows, dependencies, aggregate_of_queried_eq_error h]
    rfl
  | refs =>
    rw [entityRows, referenceRows, refs_of_queried_eq_error h rfl rfl]
    rfl

end Unanswered

/-! ### The rows of stored entities -/

/-- The long name of the owning class, empty without one. -/
def ownerName (s : Session) (e : Entity) : String :=
  ((s.ownerEdge? e.id s.traversal.ownerKinds).map (·.far.longname)).getD ""

/-- The row of a call: both methods with their classes, the near one first, and the place. -/
def callRow (s : Session) (x : Edge) : List String :=
  [s.ownerName x.near, x.near.name, s.ownerName x.far, x.far.name, x.file.name,
    numeral x.position.line]

/-- A report is made of the rows of its entities, if these can be made. -/
theorem rows_eq_ok {block : Entity → List (List String)}
    (h : ∀ e ∈ scope, s.entityRows kind e = .ok (block e)) :
    s.rows kind scope = .ok (kind.header :: scope.flatMap block) := by
  rw [rows, Except.mapM_eq_ok h]
  rfl

namespace IsOver

theorem className_eq_ok (h : s.IsOver db config) (he : e ∈ db.entities) :
    s.className e.id = .ok (s.ownerName e) := by
  simp only [className, ownerClass, h.queried he, ownerName, bind, Except.bind, pure, Except.pure,
    Option.map_map]
  rfl

/-- The rows of an entity are those of its references by the relation that lead to methods. -/
theorem callRows_eq_ok (h : s.IsOver db config) (he : e ∈ db.entities)
    (hrelation : relation ∈ reportWords) : s.callRows relation e =
      .ok ((s.selectedEdges e.id (wordFilter relation) (wordFilter "method")).map s.callRow) := by
  have hmethod : "method" ∈ reportWords := by decide
  have hrefs : s.refs e.id (some relation) (some "method") false = .ok _ :=
    h.refs_eq_ok he (parse_of_mem_reportWords hrelation) (parse_of_mem_reportWords hmethod)
  rw [callRows, h.className_eq_ok he, hrefs]
  refine Except.mapM_eq_ok fun x hx => ?_
  obtain ⟨rfl, hfar⟩ := h.stored_of_mem_leaving he (List.mem_filter.mp hx).1
  rw [h.className_eq_ok hfar]
  rfl

theorem exists_entityRows (h : s.IsOver db config) (he : e ∈ db.entities) (kind : ReportKind) :
    ∃ rows, s.entityRows kind e = .ok rows := by
  cases kind with
  | classes =>
    have hrefs : s.refs e.id (some "definein") none false = .ok _ :=
      h.refs_eq_ok he (parse_of_mem_reportWords (by decide)) rfl
    rw [entityRows, classRows, hrefs]
    exact ⟨_, rfl⟩
  | methods =>
    have hrefs : s.refs e.id (some "define") (some "method") true = .ok _ :=
      h.refs_eq_ok he (parse_of_mem_reportWords (by decide))
        (parse_of_mem_reportWords (by decide))
    rw [entityRows, methodRows, hrefs]
    exact ⟨_, rfl⟩
  | calls => exact ⟨_, h.callRows_eq_ok he (by decide)⟩
  | calledBy => exact ⟨_, h.callRows_eq_ok he (by decide)⟩
  | depends =>
    rw [entityRows, dependencyRows, dependencies, aggregate_eq_ok h he]
    exact ⟨_, rfl⟩
  | refs =>
    have hrefs : s.refs e.id none none false = .ok _ := h.refs_eq_ok he rfl rfl
    rw [entityRows, referenceRows, hrefs]
    exact ⟨_, rfl⟩

/-- The rows of stored entities can be made. -/
theorem exists_rows (h : s.IsOver db config) (hscope : ∀ e ∈ scope, e ∈ db.entities)
    (kind : ReportKind) : ∃ rows, s.rows kind scope = .ok rows := by
  obtain ⟨blocks, hblocks⟩ :=
    Except.exists_mapM fun e he => h.exists_entityRows (hscope e he) kind
  rw [rows, hblocks]
  exact ⟨_, rfl⟩

end IsOver

end Session

end CodeGraph
