import CodeGraph.Listing.Dependencies
import CodeGraph.Listing.Tokens
import CodeGraph.Proofs.Report.Rows
import CodeGraph.Proofs.Session.Names
import CodeGraph.Proofs.TokenWalk

/-!
# How listings fail

Over a started session with valid settings the listings of the whole database come to their end. A
listing of one entity fails only if the database has no such entity to show, and then before its
first line.

## Main definitions

* `Listing.FailsBy` — a listing fails for the given reasons only, before its first line

## Main results

* `Session.IsOver.failure_summary`, `failure_classes`, `failure_fileDependencies`,
  `failure_classDependencies` — listings of the whole database do not fail
* `Session.IsOver.methods_failsBy`, `calls_failsBy`, `refs_failsBy`, `tokens_failsBy` — listings of
  one entity fail for lack of it only
-/

namespace CodeGraph

namespace Listing

variable {α : Type} {l : Listing} {answer : Except Error α} {f : α → Listing}
  {reason : Error → Prop}

/-! ### Failures -/

@[simp] theorem failure_ofLines (lines : List String) : (ofLines lines).failure = none :=
  rfl

@[simp] theorem failure_append (a b : Listing) : (a ++ b).failure = a.failure.or b.failure := by
  change (append a b).failure = _
  rw [append]
  cases ha : a.failure with
  | none => rfl
  | some e => simp [ha]

@[simp] theorem failure_query_ok (a : α) (f : α → Listing) :
    (query (.ok a : Except Error α) f).failure = (f a).failure :=
  rfl

theorem failure_each {xs : List α} (h : ∀ x ∈ xs, (f x).failure = none) :
    (each xs f).failure = none := by
  induction xs with
  | nil => rfl
  | cons x xs ih =>
    obtain ⟨hx, hxs⟩ := List.forall_mem_cons.mp h
    have hrest := ih hxs
    rw [each] at hrest
    simp [each, hx, hrest]

@[simp] theorem failure_dependencyBlock (heading : String)
    (lines : Entity × List Edge → List String) (m : DependencyMap) :
    (dependencyBlock heading lines m).failure = none := by
  rw [dependencyBlock]
  split <;> rfl

/-- The listing fails exactly for the given reasons, and then before its first line. -/
structure FailsBy (l : Listing) (reason : Error → Prop) : Prop where
  failure_iff : ∀ e, l.failure = some e ↔ reason e
  lines : l.failure ≠ none → l.lines = []

theorem failsBy_of_complete (h : l.failure = none) (hreason : ∀ e, ¬ reason e) :
    l.FailsBy reason where
  failure_iff e := by simp [h, hreason e]
  lines hfailure := absurd h hfailure

/-- A listing fails by its first query only if what it lists of the answer does not fail. -/
theorem failsBy_query (hreason : ∀ e, answer = .error e ↔ reason e)
    (hcomplete : ∀ a, answer = .ok a → (f a).failure = none) : (query answer f).FailsBy reason := by
  cases answer with
  | error e =>
    constructor
    case failure_iff =>
      intro e'
      rw [← hreason, query, fail, Option.some.injEq, Except.error.injEq]
    case lines => exact fun _ => rfl
  | ok a =>
    refine failsBy_of_complete (hcomplete a rfl) fun e he => ?_
    cases (hreason e).mpr he

end Listing

namespace Session.IsOver

open Listing

variable {s : Session} {db : Database} {config settings : Config} {e : Entity} {f : KindFilter}
  {filter : String}

/-! ### Listings of the whole database -/

theorem failure_titled (h : s.IsOver db config) (title : String)
    (hf : KindFilter.parse filter = .ok f) : (titled s title filter).failure = none := by
  simp [titled, h.select_eq_ok hf]

theorem failure_summary (h : s.IsOver db config) : (summary s).failure = none := by
  have hplain {word : String} (hword : Text.IsPlain word.toList) (title : String) :
      (titled s title word).failure = none :=
    h.failure_titled title (parse_of_isPlain hword)
  rw [summary, failure_append, failure_append, hplain (by decide), hplain (by decide)]
  rfl

theorem failure_classes (h : s.IsOver db config) (hvalid : settings.validate = .ok ()) :
    (Listing.classes s settings.filters).failure = none := by
  obtain ⟨f, hf⟩ : ∃ f, KindFilter.parse settings.filters.classKinds = .ok f :=
    Config.exists_parse_of_validate hvalid (by simp [Config.expressions])
  simp [Listing.classes, h.select_eq_ok hf]

theorem failure_fileDependencies (h : s.IsOver db config) (hvalid : settings.validate = .ok ()) :
    (fileDependencies s settings.filters).failure = none := by
  obtain ⟨f, hf⟩ : ∃ f, KindFilter.parse settings.filters.fileKinds = .ok f :=
    Config.exists_parse_of_validate hvalid (by simp [Config.expressions])
  rw [fileDependencies, h.select_eq_ok hf, failure_append, failure_query_ok]
  refine failure_each fun file hfile => ?_
  rw [dependencies, aggregate_eq_ok h (h.holds.stored_of_select hfile)]
  simp

theorem failure_classBlock (h : s.IsOver db config) (he : e ∈ db.entities) (limit : Nat) :
    (classBlock s limit e).failure = none := by
  simp [classBlock, dependencies, dependents, aggregate_eq_ok h he]

theorem failure_classDependencies (h : s.IsOver db config) (hvalid : settings.validate = .ok ())
    (limit : Nat) : (classDependencies s settings.filters limit).failure = none := by
  obtain ⟨f, hf⟩ : ∃ f, KindFilter.parse settings.filters.classKinds = .ok f :=
    Config.exists_parse_of_validate hvalid (by simp [Config.expressions])
  rw [classDependencies, h.select_eq_ok hf, failure_append, failure_query_ok]
  exact failure_each fun c hc => h.failure_classBlock (h.holds.stored_of_select hc) limit

/-! ### Listings of one entity -/

/-- A listing of a named entity fails for lack of it only, if it does not fail of a stored one. -/
theorem failsBy_query_require (h : s.IsOver db config) (hf : KindFilter.parse filter = .ok f)
    {name what : String} {list : Entity → Listing}
    (hlist : ∀ e ∈ db.entities, f.selects e.kind → (list e).failure = none) :
    (query (s.require name (some filter) what) list).FailsBy (db.Lacks name f what) := by
  refine failsBy_query (fun e => h.require_eq_error_iff hf) fun e he => ?_
  obtain ⟨hmem, -, hselects⟩ := h.stored_of_require hf he
  exact hlist e hmem hselects

/-- The references of a stored entity by words of reports can be listed. -/
theorem failure_query_refs (h : s.IsOver db config) (he : e ∈ db.entities) {kinds : String}
    (hkinds : kinds ∈ reportWords) (list : List Edge → List String) :
    (query (s.refs e.id (some kinds) (some "method") true) fun found =>
      ofLines (list found)).failure = none := by
  have hrefs : s.refs e.id (some kinds) (some "method") true = .ok _ :=
    h.refs_eq_ok he (parse_of_mem_reportWords hkinds) (parse_of_mem_reportWords (by decide))
  rw [hrefs]
  rfl

theorem methods_failsBy (h : s.IsOver db config) (name : String) :
    (Listing.methods s name).FailsBy (db.Lacks name (wordFilter "class") "class") := by
  refine h.failsBy_query_require (parse_of_isPlain (by decide)) fun c hc _ => ?_
  rw [failure_append, h.failure_query_refs hc (by decide)]
  rfl

theorem calls_failsBy (h : s.IsOver db config) (name : String) :
    (Listing.calls s name).FailsBy (db.Lacks name (wordFilter "method") "method") := by
  refine h.failsBy_query_require (parse_of_isPlain (by decide)) fun m hm _ => ?_
  simp only [failure_append, h.failure_query_refs hm (by decide : "call" ∈ reportWords),
    h.failure_query_refs hm (by decide : "callby" ∈ reportWords)]
  rfl

theorem refs_failsBy (h : s.IsOver db config) (name : String)
    (hf : KindFilter.parse settings.filters.variableKinds = .ok f) :
    (Listing.refs s settings.filters name).FailsBy (db.Lacks name f "variable") := by
  refine h.failsBy_query_require hf fun v hv _ => ?_
  have hrefs : s.refs v.id none none false = .ok _ := h.refs_eq_ok hv rfl rfl
  rw [failure_append, hrefs]
  rfl

/-- What is selected as a file is one, so that its tokens can be walked over. -/
theorem tokens_failsBy (h : s.IsOver db config) (selection : TokenSelection) (name : String)
    (limit : Nat) :
    (Listing.tokens s selection name limit).FailsBy (db.Lacks name (wordFilter "file") "file") := by
  refine h.failsBy_query_require (parse_of_isPlain (by decide)) fun x hx hselects => ?_
  rw [selects_wordFilter] at hselects
  rw [h.tokenWalk_eq_ok hx hselects]
  rfl

end Session.IsOver

end CodeGraph
