import CodeGraph.Proofs.Report.Rows
import CodeGraph.TokenWalk

/-!
# Closed databases

While the database of a session is closed, what is asked of the session fails. A report on no entity
at all is the exception, as it asks nothing of the database.

## Main definitions

* `Session.IsClosed` — the database of the session is closed
* `Session.Query`, `Session.Query.answer` — what can be asked of a session, and its answer
* `Session.IsRefusal` — why a closed database gives no answer

## Main results

* `Session.Query.answer_of_isClosed` — what is asked of a closed database fails
-/

namespace CodeGraph

namespace Session

variable {s : Session} {kinds entityKinds : Option String} {k l : KindFilter}

/-! ### What is asked of a closed database -/

/-- The database of the session is closed. -/
def IsClosed (s : Session) : Prop :=
  s.database.isOpen = false

namespace IsClosed

theorem ensureOpen (h : s.IsClosed) : s.ensureOpen = .error .closed := by
  rw [IsClosed] at h
  rw [Session.ensureOpen, h]
  rfl

theorem queried (h : s.IsClosed) (id : EntityId) : s.queried id = .error .closed := by
  rw [Session.queried, h.ensureOpen]
  rfl

theorem selectBy (h : s.IsClosed) (f : KindFilter) : s.selectBy f = .error .closed := by
  rw [Session.selectBy, h.ensureOpen]
  rfl

/-- A name is not looked at before the database is found closed, and neither is a filter. -/
theorem nameFilter (h : s.IsClosed) (name : String) (filter : Option String) :
    s.nameFilter name filter = .error .closed := by
  rw [Session.nameFilter, h.ensureOpen]
  rfl

theorem find (h : s.IsClosed) (name : String) (filter : Option String) :
    s.find name filter = .error .closed := by
  rw [Session.find, h.nameFilter]
  rfl

theorem refs (h : s.IsClosed) (id : EntityId) (unique : Bool)
    (hkinds : KindFilter.parse? kinds = .ok k)
    (hentityKinds : KindFilter.parse? entityKinds = .ok l) :
    s.refs id kinds entityKinds unique = .error .closed :=
  refs_of_queried_eq_error (h.queried id) hkinds hentityKinds unique

theorem ownerClass (h : s.IsClosed) (id : EntityId) : s.ownerClass id = .error .closed :=
  ownerClass_of_queried_eq_error (h.queried id)

theorem aggregate (h : s.IsClosed) (direction : Direction) (id : EntityId) :
    s.aggregate direction id = .error .closed :=
  aggregate_of_queried_eq_error (h.queried id) direction

theorem entityRows (h : s.IsClosed) (kind : ReportKind) (e : Entity) :
    s.entityRows kind e = .error .closed :=
  entityRows_of_queried_eq_error (h.queried e.id) kind

theorem rows (h : s.IsClosed) (kind : ReportKind) {scope : List Entity} (hscope : scope ≠ []) :
    s.rows kind scope = .error .closed := by
  obtain ⟨e, scope, rfl⟩ := List.exists_cons_of_ne_nil hscope
  rw [Session.rows, List.mapM_cons, h.entityRows]
  rfl

end IsClosed

/-! ### Queries -/

/-- What can be asked of a session. -/
inductive Query where
  | select (filter : String)
  | find (name : String) (filter : Option String)
  | findLongname (longname : String) (filter : Option String)
  | require (name : String) (filter : Option String) (what : String)
  | refs (id : EntityId) (kinds entityKinds : Option String) (unique : Bool)
  | owner (id : EntityId) (filter : KindFilter)
  | ownerClass (id : EntityId)
  | parent (id : EntityId)
  | dependencies (id : EntityId)
  | dependents (id : EntityId)
  | tokenWalk (id : EntityId) (selection : TokenSelection)
  | scope (kind : ReportKind) (filters : FilterConfig)
  | rows (kind : ReportKind) (es : List Entity)

/-- What a session answers. -/
inductive Answer where
  | entities (es : List Entity)
  | entity (e : Option Entity)
  | edges (es : List Edge)
  | edge (e : Option Edge)
  | map (m : DependencyMap)
  | walk (w : TokenWalk)
  | rows (rows : List (List String))
  /-- The number of rows written. -/
  | count (n : Nat)

namespace Query

/-- The answer of a session, or why there is none. -/
def answer (s : Session) : Query → Except Error Answer
  | select filter => (s.select filter).map .entities
  | find name filter => (s.find name filter).map .entity
  | findLongname longname filter => (s.findLongname longname filter).map .entity
  | require name filter what => (s.require name filter what).map (.entity ∘ some)
  | refs id kinds entityKinds unique => (s.refs id kinds entityKinds unique).map .edges
  | owner id filter => (s.owner id filter).map .edge
  | ownerClass id => (s.ownerClass id).map .entity
  | parent id => (s.parent id).map .entity
  | dependencies id => (s.dependencies id).map .map
  | dependents id => (s.dependents id).map .map
  | tokenWalk id selection => (s.tokenWalk id selection).map .walk
  | scope kind filters => (s.scope kind filters).map .entities
  | rows kind es => (s.rows kind es).map .rows

/-- The filter expressions among the arguments. -/
def filters : Query → List String
  | select filter => [filter]
  | find _ filter | findLongname _ filter | require _ filter _ => filter.toList
  | refs _ kinds entityKinds _ => kinds.toList ++ entityKinds.toList
  | scope kind filters => [kind.scopeFilter filters]
  | owner .. | ownerClass _ | parent _ | dependencies _ | dependents _ | tokenWalk .. | rows .. =>
    []

/-- The entities of which a report is asked. -/
def reported : Query → Option (List Entity)
  | rows _ es => some es
  | _ => none

end Query

/-- The database is closed, or one of the filter expressions does not parse. -/
def IsRefusal (filters : List String) (e : Error) : Prop :=
  e = .closed ∨ ∃ expr ∈ filters, KindFilter.parse expr = .error e

theorem IsClosed.select (h : s.IsClosed) (filter : String) :
    ∃ e, s.select filter = .error e ∧ IsRefusal [filter] e := by
  rw [Session.select]
  cases hparse : KindFilter.parse filter with
  | error e => exact ⟨e, rfl, Or.inr ⟨filter, List.mem_singleton_self filter, hparse⟩⟩
  | ok f => exact ⟨.closed, h.selectBy f, Or.inl rfl⟩

theorem exists_of_parse?_eq_error {filter : Option String} {e : Error}
    (h : KindFilter.parse? filter = .error e) :
    ∃ expr ∈ filter.toList, KindFilter.parse expr = .error e := by
  cases filter with
  | none => cases h
  | some expr => exact ⟨expr, List.mem_singleton_self expr, h⟩

theorem IsClosed.refs_failure (h : s.IsClosed) (id : EntityId) (kinds entityKinds : Option String)
    (unique : Bool) : ∃ e, s.refs id kinds entityKinds unique = .error e ∧
      IsRefusal (kinds.toList ++ entityKinds.toList) e := by
  cases hkinds : KindFilter.parse? kinds with
  | error e =>
    obtain ⟨expr, hexpr, hparse⟩ := exists_of_parse?_eq_error hkinds
    refine ⟨e, ?_, Or.inr ⟨expr, List.mem_append_left _ hexpr, hparse⟩⟩
    rw [Session.refs, hkinds]
    rfl
  | ok k =>
    cases hentityKinds : KindFilter.parse? entityKinds with
    | error e =>
      obtain ⟨expr, hexpr, hparse⟩ := exists_of_parse?_eq_error hentityKinds
      refine ⟨e, ?_, Or.inr ⟨expr, List.mem_append_right _ hexpr, hparse⟩⟩
      rw [Session.refs, hkinds, hentityKinds]
      rfl
    | ok l => exact ⟨.closed, h.refs id unique hkinds hentityKinds, Or.inl rfl⟩

/-- What is asked of a closed database fails, unless it is a report on no entity. -/
theorem Query.answer_of_isClosed (h : s.IsClosed) (q : Query) (hq : q.reported ≠ some []) :
    ∃ e, q.answer s = .error e ∧ IsRefusal q.filters e := by
  -- the queries whose arguments hold no filter, or that look at it later
  have hclosed {α : Type} {x : Except Error α} (g : α → Answer) (hx : x = .error .closed) :
      ∃ e, x.map g = .error e ∧ IsRefusal q.filters e :=
    ⟨.closed, by rw [hx]; rfl, Or.inl rfl⟩
  cases q with
  | select filter =>
    obtain ⟨e, he, hfailure⟩ := h.select filter
    exact ⟨e, by rw [answer, he]; rfl, hfailure⟩
  | find name filter => exact hclosed _ (h.find name filter)
  | findLongname longname filter =>
    refine hclosed _ ?_
    rw [Session.findLongname, h.nameFilter]
    rfl
  | require name filter what =>
    refine hclosed _ ?_
    rw [Session.require, h.find]
    rfl
  | refs id kinds entityKinds unique =>
    obtain ⟨e, he, hfailure⟩ := h.refs_failure id kinds entityKinds unique
    exact ⟨e, by rw [answer, he]; rfl, hfailure⟩
  | owner id filter =>
    refine hclosed _ ?_
    rw [Session.owner, h.queried]
    rfl
  | ownerClass id => exact hclosed _ (h.ownerClass id)
  | parent id =>
    refine hclosed _ ?_
    rw [Session.parent, h.queried]
    rfl
  | dependencies id => exact hclosed _ (h.aggregate .forward id)
  | dependents id => exact hclosed _ (h.aggregate .inverse id)
  | tokenWalk id selection =>
    refine hclosed _ ?_
    rw [Session.tokenWalk, h.queried]
    rfl
  | scope kind filters =>
    obtain ⟨e, he, hfailure⟩ := h.select (kind.scopeFilter filters)
    refine ⟨e, ?_, hfailure⟩
    rw [answer, Session.scope, he]
    rfl
  | rows kind es => exact hclosed _ (h.rows kind fun hes => hq (congrArg some hes))

end Session

end CodeGraph
