import CodeGraph.Config.Toml
import CodeGraph.Proofs.Listing
import CodeGraph.Proofs.Printing
import CodeGraph.Proofs.Storage.Answers

/-!
# How commands fail

Over a sound snapshot and with valid settings nothing goes wrong inside. What is asked of stored
entities is answered, and a command whose sink never fails is refused only for what its user gave: a
name that no entity has, a report or a filter that does not exist, a path that cannot be written. A
refused command has printed nothing and changed no file.

## Main definitions

* `Session.AnswersAll` — what is asked of stored entities is answered
* `Command.Refusal` — why a command is refused
* `Command.Outcome.FailsBy` — the outcome is a failure for the given reasons only

## Main results

* `Config.validate_load` — settings from a file are valid, whatever it holds
* `Command.run_failsBy` — commands fail by their refusals only
* `Snapshot.fails_by_refusal` — the same for every sound snapshot
-/

namespace CodeGraph

/-! ### Settings from files -/

namespace Config

variable {c : Config} {text : String}

theorem validate_of_parse (h : parse text = .ok c) : c.validate = .ok () := by
  rw [parse] at h
  split at h
  next config _ =>
    obtain ⟨_, hvalid, h⟩ := Except.bind_eq_ok_iff.mp h
    cases h
    exact hvalid
  next => cases h

/-- Settings from a file are valid, whatever the file holds, as the defaults are. -/
theorem validate_load (files : FileTree) (path : String) : (load files path).validate = .ok () := by
  rw [load]
  split
  next => rfl
  next =>
    split
    next hparse => exact validate_of_parse hparse
    next => rfl

end Config

/-! ### Malformed filters -/

theorem FilterTerm.category_of_parse {filter : String} {cs : List Char} {e : Error}
    (h : FilterTerm.parse filter cs = .error e) : e.category = .invalidArgument := by
  have hword {word : List Char} (h : FilterTerm.parseWord filter word = .error e) :
      e.category = .invalidArgument := by
    rw [FilterTerm.parseWord] at h
    split at h
    next =>
      cases h
      rfl
    next =>
      split at h
      next =>
        cases h
        rfl
      next => cases h
  rw [FilterTerm.parse.eq_def] at h
  split at h
  all_goals exact hword (Except.map_eq_error_iff.mp h)

/-- A filter that does not parse is an invalid argument. -/
theorem KindFilter.category_of_parse {expr : String} {e : Error}
    (h : KindFilter.parse expr = .error e) : e.category = .invalidArgument := by
  rw [KindFilter.parse] at h
  split at h
  next => cases h
  next =>
    obtain ⟨piece, -, hpiece⟩ := Except.exists_of_mapM_eq_error (Except.map_eq_error_iff.mp h)
    rw [Alternative.parse] at hpiece
    split at hpiece
    next =>
      cases hpiece
      rfl
    next =>
      obtain ⟨term, -, hterm⟩ :=
        Except.exists_of_mapM_eq_error (Except.map_eq_error_iff.mp hpiece)
      exact FilterTerm.category_of_parse hterm

/-! ### Answers -/

/-- What is asked of stored entities is answered, if the filters parse. -/
structure Session.AnswersAll (s : Session) (db : Database) : Prop where
  refs : ∀ e ∈ db.entities, ∀ kinds entityKinds unique f g, KindFilter.parse? kinds = .ok f →
    KindFilter.parse? entityKinds = .ok g →
    ∃ found, s.refs e.id kinds entityKinds unique = .ok found
  owner : ∀ e ∈ db.entities, ∀ f, ∃ r, s.owner e.id f = .ok r
  ownerClass : ∀ e ∈ db.entities, ∃ c, s.ownerClass e.id = .ok c
  parent : ∀ e ∈ db.entities, ∃ c, s.parent e.id = .ok c
  dependencies : ∀ e ∈ db.entities, ∃ m, s.dependencies e.id = .ok m
  dependents : ∀ e ∈ db.entities, ∃ m, s.dependents e.id = .ok m
  rows : ∀ kind scope, (∀ e ∈ scope, e ∈ db.entities) → ∃ rows, s.rows kind scope = .ok rows

theorem Session.IsOver.answersAll {s : Session} {db : Database} {config : Config}
    (h : s.IsOver db config) : s.AnswersAll db where
  refs _ he _ _ _ _ _ hf hg := ⟨_, h.refs_eq_ok he hf hg⟩
  owner e he f := ⟨s.ownerEdge? e.id f, by rw [owner, h.queried he]; rfl⟩
  ownerClass e he :=
    ⟨(s.ownerEdge? e.id s.traversal.ownerKinds).map (·.far), by rw [ownerClass, h.queried he]; rfl⟩
  parent e he := ⟨s.parent? e, by rw [parent, h.queried he]; rfl⟩
  dependencies _ he := ⟨_, aggregate_eq_ok h he⟩
  dependents _ he := ⟨_, aggregate_eq_ok h he⟩
  rows kind _ hscope := h.exists_rows hscope kind

/-! ### Refusals -/

namespace Command

open Session (wordFilter)

/-- Why a command is refused. The commands that show a whole database never are. -/
inductive Refusal (db : Database) (config : Config) (files : FileTree) :
    Command → Error → Prop where
  | methods {name : String} {e : Error} (h : db.Lacks name (wordFilter "class") "class" e) :
    Refusal db config files (.methods name) e
  | calls {name : String} {e : Error} (h : db.Lacks name (wordFilter "method") "method" e) :
    Refusal db config files (.calls name) e
  | refs {name : String} {f : KindFilter} {e : Error}
      (hf : KindFilter.parse config.filters.variableKinds = .ok f)
      (h : db.Lacks name f "variable" e) :
    Refusal db config files (.refs name) e
  | lexer {name : String} {limit : Option Nat} {e : Error}
      (h : db.Lacks name (wordFilter "file") "file" e) :
    Refusal db config files (.lexer name limit) e
  | unknownReport {report : String} {output filter : Option String}
      (h : ∀ kind, ReportKind.parse report ≠ .ok kind) :
    Refusal db config files (.exportReport report output filter) (.unknownReport report)
  | malformedFilter {report expr : String} {output : Option String} {kind : ReportKind} {e : Error}
      (hkind : ReportKind.parse report = .ok kind) (h : KindFilter.parse expr = .error e)
      (hcategory : e.category = .invalidArgument) :
    Refusal db config files (.exportReport report output (some expr)) e
  /-- Nothing can be written at the path. -/
  | output {report path : String} {filter : Option String} {kind : ReportKind} {fault : IoFault}
      (hkind : ReportKind.parse report = .ok kind)
      (hfilter : ∀ expr ∈ filter, ∃ f, KindFilter.parse expr = .ok f)
      (hpath : files.node path ≠ .ok .standardOutput) (h : files.Refuses path fault) :
    Refusal db config files (.exportReport report (some path) filter) (.io path fault)

/-- The outcome is a failure exactly for the given reasons, and then nothing has been printed and no
file has changed. -/
structure Outcome.FailsBy (o : Outcome) (files : FileTree) (sink : Sink) (reason : Error → Prop) :
    Prop where
  failure_iff : ∀ failure, o.failure = some failure ↔ ∃ e, failure = .query e ∧ reason e
  untouched : o.failure ≠ none → o.sink = sink ∧ o.files = files

section Outcomes

variable {o : Outcome} {files : FileTree} {sink : Sink} {reason reason' : Error → Prop}
  {l : Listing}

theorem Outcome.FailsBy.congr (h : o.FailsBy files sink reason)
    (hreason : ∀ e, reason e ↔ reason' e) : o.FailsBy files sink reason' where
  failure_iff failure := by simp only [h.failure_iff, hreason]
  untouched := h.untouched

theorem Outcome.failsBy_of_success (h : o.failure = none) (hreason : ∀ e, ¬ reason e) :
    o.FailsBy files sink reason where
  failure_iff failure := by simp [h, hreason]
  untouched hfailure := absurd h hfailure

theorem failsBy_refuse {e : Error} (hreason : ∀ e', reason e' ↔ e' = e) :
    (refuse files sink e).FailsBy files sink reason where
  failure_iff failure := by simp [refuse, hreason, eq_comm]
  untouched _ := ⟨rfl, rfl⟩

/-- Printing fails as the listing does. -/
theorem failsBy_print (hsink : sink.NeverFails) (h : l.FailsBy reason) :
    (print files sink l).FailsBy files sink reason := by
  rw [(offers_print files l).of_neverFails hsink]
  constructor
  case failure_iff =>
    intro failure
    simp only [Option.map_eq_some_iff, h.failure_iff]
    exact exists_congr fun e => and_comm.trans (and_congr_left fun _ => eq_comm)
  case untouched =>
    intro hfailure
    have hempty : l.lines = [] := h.lines fun hnone => hfailure (by simp [hnone])
    simp [hempty, Bytes.ofLines]

/-- A complete listing is printed. -/
theorem failure_print (hsink : sink.NeverFails) (h : l.failure = none) :
    (print files sink l).failure = none := by
  rw [(offers_print files l).of_neverFails hsink, h]
  rfl

end Outcomes

/-! ### Exports -/

section Export

variable {s : Session} {db : Database} {config settings : Config} {files : FileTree} {sink : Sink}
  {kind : ReportKind} {es : List Entity} {rows : List (List String)} {report path : String}
  {output filter : Option String}

theorem scopeFilter_mem_expressions (settings : Config) (kind : ReportKind) :
    kind.scopeFilter settings.filters ∈ settings.expressions := by
  cases kind <;> simp [ReportKind.scopeFilter, Config.expressions]

theorem reportOf_eq_ok_iff : reportOf s settings report filter = .ok (kind, es) ↔
    ReportKind.parse report = .ok kind ∧ scope s settings kind filter = .ok es := by
  simp only [reportOf, Except.bind_eq_ok_iff, pure, Except.pure, Except.ok.injEq, Prod.mk.injEq]
  constructor
  · rintro ⟨_, hparse, _, hscope, rfl, rfl⟩
    exact ⟨hparse, hscope⟩
  · rintro ⟨hparse, hscope⟩
    exact ⟨kind, hparse, es, hscope, rfl, rfl⟩

/-- A report is looked up before its entities. -/
theorem reportOf_of_unknown {e : Error} (h : ReportKind.parse report = .error e) :
    reportOf s settings report filter = .error e := by
  rw [reportOf, h]
  rfl

theorem reportOf_of_malformed {expr : String} {e : Error}
    (hkind : ReportKind.parse report = .ok kind) (h : KindFilter.parse expr = .error e) :
    reportOf s settings report (some expr) = .error e := by
  rw [reportOf, hkind]
  simp only [scope, Session.select, h, bind, Except.bind]

/-- The report and its entities are found if the report exists and the filter parses. -/
theorem exists_reportOf (h : s.IsOver db config) (hvalid : settings.validate = .ok ())
    (hkind : ReportKind.parse report = .ok kind)
    (hfilter : ∀ expr ∈ filter, ∃ f, KindFilter.parse expr = .ok f) :
    ∃ es, reportOf s settings report filter = .ok (kind, es) ∧ ∀ e ∈ es, e ∈ db.entities := by
  have hselect : ∃ expr f, scope s settings kind filter = s.select expr ∧
      KindFilter.parse expr = .ok f := by
    cases filter with
    | none =>
      obtain ⟨f, hf⟩ :=
        Config.exists_parse_of_validate hvalid (scopeFilter_mem_expressions settings kind)
      exact ⟨_, f, rfl, hf⟩
    | some expr =>
      obtain ⟨f, hf⟩ := hfilter expr rfl
      exact ⟨expr, f, rfl, hf⟩
  obtain ⟨expr, f, hscope, hf⟩ := hselect
  have hreport := reportOf_eq_ok_iff.mpr ⟨hkind, hscope.trans (h.select_eq_ok hf)⟩
  exact ⟨s.catalog.select f, hreport, fun e he => h.holds.stored_of_select he⟩

/-- If the report exists and the filter parses, only the path is a reason to refuse an export. -/
theorem Refusal.exists_path {e : Error} (hkind : ReportKind.parse report = .ok kind)
    (hfilter : ∀ expr ∈ filter, ∃ f, KindFilter.parse expr = .ok f)
    (h : Refusal db settings files (.exportReport report output filter) e) :
    ∃ path fault, output = some path ∧ files.node path ≠ .ok .standardOutput ∧
      files.Refuses path fault ∧ e = .io path fault := by
  cases h with
  | unknownReport hno => exact absurd hkind (hno kind)
  | malformedFilter _ hbad =>
    obtain ⟨f, hf⟩ := hfilter _ rfl
    cases hf.symm.trans hbad
  | output _ _ hpath hrefuses => exact ⟨_, _, rfl, hpath, hrefuses, rfl⟩

/-- An export to a file is refused if nothing can be written there. -/
theorem failsBy_runExport_file (hsink : sink.NeverFails)
    (hkind : ReportKind.parse report = .ok kind)
    (hfilter : ∀ expr ∈ filter, ∃ f, KindFilter.parse expr = .ok f)
    (hreport : reportOf s settings report filter = .ok (kind, es))
    (hrows : s.rows kind es = .ok rows) (hpath : files.node path ≠ .ok .standardOutput) :
    (runExport s settings files sink report (some path) filter).FailsBy files sink
      (Refusal db settings files (.exportReport report (some path) filter)) := by
  have herror (e : Error) : s.exportReport kind es settings.export.delimiter files path = .error e ↔
      ∃ fault, files.Refuses path fault ∧ e = .io path fault :=
    Session.exportReport_eq_error_iff hrows settings.export.delimiter
  rw [runExport, hreport]
  dsimp only
  split
  next hnode => exact absurd hnode hpath
  next =>
    split
    next e hexport =>
      -- the fault is that of the path, whatever the report holds
      obtain ⟨fault, hrefuses, rfl⟩ := (herror _).mp hexport
      refine failsBy_refuse fun e' => ⟨fun hrefusal => ?_, ?_⟩
      · obtain ⟨_, fault', ⟨⟩, -, hrefuses', rfl⟩ := hrefusal.exists_path hkind hfilter
        exact Except.error.inj (((herror _).mpr ⟨fault', hrefuses', rfl⟩).symm.trans hexport)
      · rintro rfl
        exact .output hkind hfilter hpath hrefuses
    next files' count hexport =>
      refine Outcome.failsBy_of_success (failure_print hsink rfl) fun e hrefusal => ?_
      obtain ⟨_, fault, ⟨⟩, -, hrefuses, rfl⟩ := hrefusal.exists_path hkind hfilter
      cases ((herror _).mpr ⟨fault, hrefuses, rfl⟩).symm.trans hexport

/-- Once the report and its entities are found, only the path can be refused. -/
theorem failsBy_runExport_of_reportOf (hsink : sink.NeverFails)
    (hkind : ReportKind.parse report = .ok kind)
    (hfilter : ∀ expr ∈ filter, ∃ f, KindFilter.parse expr = .ok f)
    (hreport : reportOf s settings report filter = .ok (kind, es))
    (hrows : s.rows kind es = .ok rows) :
    (runExport s settings files sink report output filter).FailsBy files sink
      (Refusal db settings files (.exportReport report output filter)) := by
  cases output with
  | none =>
    rw [runExport, hreport]
    have hexport := (offers_exportToSink hrows settings files).of_neverFails hsink
    refine Outcome.failsBy_of_success (congrArg Outcome.failure hexport) fun e hrefusal => ?_
    obtain ⟨path, fault, hnone, -⟩ := hrefusal.exists_path hkind hfilter
    cases hnone
  | some path =>
    by_cases hpath : files.node path = .ok .standardOutput
    · -- the path leads to the sink, which takes the report
      rw [runExport, hreport]
      dsimp only
      rw [hpath]
      have hexport := (offers_exportAlongPath hrows settings files path).of_neverFails hsink
      refine Outcome.failsBy_of_success (congrArg Outcome.failure hexport) fun e hrefusal => ?_
      obtain ⟨_, fault, ⟨⟩, hother, -⟩ := hrefusal.exists_path hkind hfilter
      exact hother hpath
    · exact failsBy_runExport_file hsink hkind hfilter hreport hrows hpath

theorem parse_eq_unknownReport {e : Error} (h : ReportKind.parse report = .error e) :
    e = .unknownReport report := by
  simp only [ReportKind.parse] at h
  split at h
  next => cases h
  next =>
    cases h
    rfl

theorem failsBy_runExport_of_unknown {e : Error} (h : ReportKind.parse report = .error e) :
    (runExport s settings files sink report output filter).FailsBy files sink
      (Refusal db settings files (.exportReport report output filter)) := by
  obtain rfl := parse_eq_unknownReport h
  rw [runExport_of_reportOf_eq_error (reportOf_of_unknown h)]
  refine failsBy_refuse fun e => ⟨fun hrefusal => ?_, ?_⟩
  · cases hrefusal with
    | unknownReport => rfl
    | malformedFilter hkind | output hkind => cases h.symm.trans hkind
  · rintro rfl
    exact .unknownReport fun kind hkind => by cases h.symm.trans hkind

theorem failsBy_runExport_of_malformed {expr : String} {e : Error}
    (hkind : ReportKind.parse report = .ok kind) (h : KindFilter.parse expr = .error e) :
    (runExport s settings files sink report output (some expr)).FailsBy files sink
      (Refusal db settings files (.exportReport report output (some expr))) := by
  rw [runExport_of_reportOf_eq_error (reportOf_of_malformed hkind h)]
  refine failsBy_refuse fun e' => ⟨fun hrefusal => ?_, ?_⟩
  · cases hrefusal with
    | unknownReport hno => exact absurd hkind (hno kind)
    | malformedFilter _ h' => exact Except.error.inj (h'.symm.trans h)
    | output _ hfilter =>
      obtain ⟨f, hf⟩ := hfilter expr rfl
      cases h.symm.trans hf
  · rintro rfl
    exact .malformedFilter hkind h (KindFilter.category_of_parse h)

/-- An export fails for an unknown report, a filter that does not parse or a refused path. -/
theorem failsBy_runExport (h : s.IsOver db config) (hvalid : settings.validate = .ok ())
    (hsink : sink.NeverFails) : (runExport s settings files sink report output filter).FailsBy
      files sink (Refusal db settings files (.exportReport report output filter)) := by
  cases hkind : ReportKind.parse report with
  | error e => exact failsBy_runExport_of_unknown hkind
  | ok kind =>
    by_cases hfilter : ∀ expr ∈ filter, ∃ f, KindFilter.parse expr = .ok f
    · obtain ⟨es, hreport, hstored⟩ := exists_reportOf h hvalid hkind hfilter
      obtain ⟨rows, hrows⟩ := h.exists_rows hstored kind
      exact failsBy_runExport_of_reportOf hsink hkind hfilter hreport hrows
    · push Not at hfilter
      obtain ⟨expr, hexpr, hbad⟩ := hfilter
      obtain rfl := Option.mem_def.mp hexpr
      cases hparse : KindFilter.parse expr with
      | ok f => exact absurd hparse (hbad f)
      | error e => exact failsBy_runExport_of_malformed hkind hparse

end Export

/-- Over a started session commands fail by their refusals only, and before anything is printed. -/
theorem run_failsBy {s : Session} {db : Database} {config settings : Config}
    (h : s.IsOver db config) (hvalid : settings.validate = .ok ()) {sink : Sink}
    (hsink : sink.NeverFails) (files : FileTree) (command : Command) :
    (run s settings files sink command).FailsBy files sink (Refusal db settings files command) := by
  -- a listing of everything is complete, one of a named entity may lack the entity, and an export
  -- has its own reasons
  cases command with
  | summary =>
    exact Outcome.failsBy_of_success (failure_print hsink h.failure_summary) (by rintro e ⟨⟩)
  | classes =>
    exact Outcome.failsBy_of_success (failure_print hsink (h.failure_classes hvalid))
      (by rintro e ⟨⟩)
  | methods name =>
    refine (failsBy_print hsink (h.methods_failsBy name)).congr fun e =>
      ⟨.methods, fun hrefusal => ?_⟩
    cases hrefusal with
    | methods hlacks => exact hlacks
  | calls name =>
    refine (failsBy_print hsink (h.calls_failsBy name)).congr fun e =>
      ⟨.calls, fun hrefusal => ?_⟩
    cases hrefusal with
    | calls hlacks => exact hlacks
  | refs name =>
    obtain ⟨f, hf⟩ : ∃ f, KindFilter.parse settings.filters.variableKinds = .ok f :=
      Config.exists_parse_of_validate hvalid (by simp [Config.expressions])
    refine (failsBy_print hsink (h.refs_failsBy name hf)).congr fun e =>
      ⟨.refs hf, fun hrefusal => ?_⟩
    cases hrefusal with
    | refs hf' hlacks =>
      cases hf.symm.trans hf'
      exact hlacks
  | lexer file limit =>
    refine (failsBy_print hsink (h.tokens_failsBy _ file _)).congr fun e =>
      ⟨.lexer, fun hrefusal => ?_⟩
    cases hrefusal with
    | lexer hlacks => exact hlacks
  | fileDeps =>
    exact Outcome.failsBy_of_success (failure_print hsink (h.failure_fileDependencies hvalid))
      (by rintro e ⟨⟩)
  | classDeps =>
    exact Outcome.failsBy_of_success (failure_print hsink (h.failure_classDependencies hvalid _))
      (by rintro e ⟨⟩)
  | exportReport report output filter => exact failsBy_runExport h hvalid hsink

end Command

namespace Snapshot

/-- Settings from a file are valid. With valid settings a session starts over every snapshot that
becomes a database, it answers all that is asked of stored entities, and commands fail by their
refusals only. -/
theorem fails_by_refusal {snap : Snapshot} {db : Database} {config : Config}
    (hdb : snap.toDatabase = .ok db) (hvalid : config.validate = .ok ()) :
    (∀ files path, (Config.load files path).validate = .ok ()) ∧
    ∃ s, Session.start db config = .ok s ∧ s.AnswersAll db ∧
      ∀ sink : Sink, sink.NeverFails → ∀ files command,
        (Command.run s config files sink command).FailsBy files sink
          (Command.Refusal db config files command) := by
  obtain ⟨hsound, f, hf, rfl⟩ := toDatabase_eq_ok_iff.mp hdb
  obtain ⟨s, hs⟩ := hsound.exists_isOver f hvalid
  exact ⟨Config.validate_load, s, Session.start_eq_ok_iff.mpr hs, hs.answersAll,
    fun sink hsink files command => Command.run_failsBy hs hvalid hsink files command⟩

/-- A class without a name is refused, one that is not stored, and a report in a directory that is
missing. -/
theorem fails_by_refusal_tied : ∃ db s, (tied uses).toDatabase = .ok db ∧
    ({} : Config).validate = .ok () ∧ Session.start db {} = .ok s ∧ s.AnswersAll db ∧
    Sink.unlimited.NeverFails ∧
    (Command.run s {} .empty .unlimited (.methods "")).failure = some (.query .emptyName) ∧
    (Command.run s {} .empty .unlimited (.methods "C")).failure =
      some (.query (.notFound "class" "C")) ∧
    (Command.run s {} .empty .unlimited (.exportReport "refs" (some "out/refs.csv") none)).failure =
      some (.query (.io "out/refs.csv" .missing)) := by
  have hdb : (tied uses).toDatabase = .ok ((tied uses).opened unresolvedKinds) := rfl
  have hvalid : ({} : Config).validate = .ok () := rfl
  obtain ⟨-, s, hs, hanswers, hfails⟩ := fails_by_refusal hdb hvalid
  have hrefused {command : Command} {e : Error}
      (h : Command.Refusal ((tied uses).opened unresolvedKinds) {} .empty command e) :
      (Command.run s {} .empty .unlimited command).failure = some (.query e) :=
    ((hfails _ Sink.neverFails_unlimited .empty command).failure_iff _).mpr ⟨e, rfl, h⟩
  have hkind : ReportKind.parse "refs" = .ok .refs := by decide +kernel
  refine ⟨_, s, hdb, hvalid, hs, hanswers, Sink.neverFails_unlimited, ?_, ?_, ?_⟩
  · exact hrefused (.methods (.emptyName rfl))
  · exact hrefused (.methods (.notFound (by decide) (by decide)))
  · exact hrefused (.output hkind (by simp) (by decide) fun _ _ => rfl)

end Snapshot

end CodeGraph
