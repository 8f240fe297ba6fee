import CodeGraph.Proofs.Printing
import CodeGraph.Proofs.Session.Evaluation

/-!
# Commands on sinks that fail

A command offers the same bytes to every sink. A sink that fails accepts the front of them, and the
failure is reported. A sink that accepts them all changes nothing of the outcome, unless it has to
be flushed and cannot be.

## Main definitions

* `Session.IsCutReport` — the answer is one of a sink that never fails, cut off
* `Command.SinkFailure` — how a command reports a fault of its sink
* `Command.Outcome.IsCut` — the outcome is one on a sink that never fails, cut off

## Main results

* `Command.exists_offers_run` — commands offer the same bytes to every sink
* `Session.limited_cuts` — a sink that fails only cuts off
-/

namespace CodeGraph

/-! ### Reports -/

namespace Session

/-- What writing a report to a sink that accepts `n` bytes gives is what writing it to a sink that
never fails gives, cut off. -/
structure IsCutReport (cut whole : Sink × Except Error Nat) (n : Nat) (flushable : Bool) :
    Prop where
  accepted : cut.1.accepted = whole.1.accepted.take n
  full : n < whole.1.accepted.length → cut.2 = .error (.io Report.sinkName .sinkFull)
  fits : whole.1.accepted.length ≤ n → flushable → cut.2 = whole.2
  /-- All has been written, but an error that was there before comes first. -/
  unflushed : whole.1.accepted.length ≤ n → flushable = false →
    cut.2 = whole.2.bind fun _ => .error (.io Report.sinkName .flushFailed)

/-- A report is written to a sink that accepts `n` bytes as to one that never fails, but cut off. -/
theorem isCutReport_writeReport (s : Session) (kind : ReportKind) (es : List Entity) (d : Char)
    (n : Nat) (flushable : Bool) :
    IsCutReport (s.writeReport kind es d (.limited n flushable))
      (s.writeReport kind es d .unlimited) n flushable := by
  cases hrows : s.rows kind es with
  | error e =>
    -- neither sink is offered anything
    simp only [writeReport, hrows]
    exact
      { accepted := List.take_nil.symm
        full := fun h => absurd h (Nat.not_lt_zero n)
        fits := fun _ _ => rfl
        unflushed := fun _ _ => rfl }
  | ok rows =>
    have hwhole : s.writeReport kind es d .unlimited =
        (⟨Report.content d rows, none, true⟩, .ok (Report.dataCount rows)) :=
      writeReport_of_neverFails Sink.neverFails_unlimited hrows d
    rw [hwhole]
    rcases Nat.lt_or_ge n (Report.content d rows).length with hless | hfits
    · rw [writeReport_of_fault hrows (Sink.write_limited_of_lt hless flushable)]
      exact
        { accepted := rfl
          full := fun _ => rfl
          fits := fun h => absurd hless (Nat.not_lt_of_le h)
          unflushed := fun h => absurd hless (Nat.not_lt_of_le h) }
    · rw [writeReport_of_fits hrows (Sink.write_limited_of_le hfits flushable)]
      exact
        { accepted := (List.take_of_length_le hfits).symm
          full := fun h => absurd h (Nat.not_lt_of_le hfits)
          fits := by
            rintro - rfl
            rfl
          unflushed := by
            rintro - rfl
            rfl }

end Session

/-! ### Commands -/

namespace Command

/-- The command forces out what it has printed, as an export to the sink does. -/
def flushes : Command → Bool
  | exportReport _ none _ => true
  | _ => false

/-- How a command reports a fault of its sink. An export names what it writes the report to. -/
inductive SinkFailure (files : FileTree) (fault : IoFault) : Command → ListingFailure → Prop where
  | output {command : Command} (h : command.flushes = false) :
    SinkFailure files fault command (.output fault)
  | report {report : String} {filter : Option String} :
    SinkFailure files fault (.exportReport report none filter) (.query (.io Report.sinkName fault))
  /-- The path leads to the sink. -/
  | path {report path : String} {filter : Option String}
      (h : files.node path = .ok .standardOutput) :
    SinkFailure files fault (.exportReport report (some path) filter) (.query (.io path fault))

/-- The outcome of a command over files on a sink that accepts `n` bytes is that on a sink that
never fails, cut off. -/
structure Outcome.IsCut (cut whole : Outcome) (files : FileTree) (command : Command) (n : Nat)
    (flushable : Bool) : Prop where
  accepted : cut.sink.accepted = whole.sink.accepted.take n
  full : n < whole.sink.accepted.length →
    ∃ failure, cut.failure = some failure ∧ SinkFailure files .sinkFull command failure
  fits : whole.sink.accepted.length ≤ n → flushable ∨ command.flushes = false →
    cut.failure = whole.failure
  /-- All has been printed, but a failure that was there before comes first. -/
  unflushed : whole.sink.accepted.length ≤ n → flushable = false → command.flushes →
    cut.failure = whole.failure.or (some (.query (.io Report.sinkName .flushFailed)))
  written : cut.files = whole.files

/-- An export offers the same bytes to every sink: the report, the message after it, or both, and
none if it is refused. -/
theorem exists_offers_runExport (s : Session) (config : Config) (files : FileTree)
    (report : String) (output filter : Option String) : ∃ bs files' failure,
    Offers (runExport s config files · report output filter) bs files' failure
      (exportReport report output filter).flushes
      (SinkFailure files · (.exportReport report output filter)) := by
  cases hreport : reportOf s config report filter with
  | error e =>
    simp only [runExport_of_reportOf_eq_error hreport]
    exact ⟨_, _, _, offers_refuse files e _ _⟩
  | ok found =>
    obtain ⟨kind, es⟩ := found
    cases hrows : s.rows kind es with
    | error e =>
      simp only [runExport_of_rows_eq_error hreport hrows]
      exact ⟨_, _, _, offers_refuse files e _ _⟩
    | ok rows =>
      simp only [runExport, hreport]
      cases output with
      | none =>
        refine ⟨_, _, _, (offers_exportToSink hrows config files).imp ?_⟩
        rintro fault _ rfl
        exact .report
      | some path =>
        dsimp only
        split
        next hnode =>
          refine ⟨_, _, _, (offers_exportAlongPath hrows config files path).imp ?_⟩
          rintro fault _ (rfl | rfl)
          · exact .path hnode
          · exact .output rfl
        next =>
          cases s.exportReport kind es config.export.delimiter files path with
          | error e => exact ⟨_, _, _, offers_refuse files e _ _⟩
          | ok exported =>
            refine ⟨_, _, _, (offers_print _ _).imp ?_⟩
            rintro fault _ rfl
            exact .output rfl

/-- A command offers the same bytes to every sink and leaves the same files. -/
theorem exists_offers_run (s : Session) (config : Config) (files : FileTree) (command : Command) :
    ∃ bs files' failure, Offers (run s config files · command) bs files' failure command.flushes
      (SinkFailure files · command) := by
  have hprint (l : Listing) (hflushes : command.flushes = false) : ∃ bs files' failure,
      Offers (print files · l) bs files' failure command.flushes (SinkFailure files · command) := by
    rw [hflushes]
    refine ⟨_, _, _, (offers_print files l).imp ?_⟩
    rintro fault _ rfl
    exact .output hflushes
  cases command with
  | summary => exact hprint _ rfl
  | classes => exact hprint _ rfl
  | methods className => exact hprint _ rfl
  | calls method => exact hprint _ rfl
  | refs variableName => exact hprint _ rfl
  | lexer file limit => exact hprint _ rfl
  | fileDeps => exact hprint _ rfl
  | classDeps => exact hprint _ rfl
  | exportReport report output filter =>
    exact exists_offers_runExport s config files report output filter

/-- What is offered to every sink is cut off by one that accepts `n` bytes. -/
theorem Offers.isCut {act : Sink → Outcome} {bs : Bytes} {files files' : FileTree}
    {failure : Option ListingFailure} {command : Command}
    (h : Offers act bs files' failure command.flushes (SinkFailure files · command)) (n : Nat)
    (flushable : Bool) :
    (act (.limited n flushable)).IsCut (act .unlimited) files command n flushable := by
  have hwhole : act .unlimited = ⟨⟨bs, none, true⟩, files', failure⟩ :=
    h.of_neverFails Sink.neverFails_unlimited
  rw [hwhole]
  rcases Nat.lt_or_ge n bs.length with hless | hfits
  · obtain ⟨reported, hact, hreported⟩ := h.fault (Sink.write_limited_of_lt hless flushable)
    rw [hact]
    exact
      { accepted := rfl
        full := fun _ => ⟨reported, rfl, hreported⟩
        fits := fun h => absurd hless (Nat.not_lt_of_le h)
        unflushed := fun h => absurd hless (Nat.not_lt_of_le h)
        written := rfl }
  · rw [h.fits (Sink.write_limited_of_le hfits flushable)]
    exact
      { accepted := (List.take_of_length_le hfits).symm
        full := fun h => absurd h (Nat.not_lt_of_le hfits)
        fits := by
          rintro - (rfl | hflushes)
          · cases command.flushes <;> simp [flushFailure, Sink.flush]
          · simp [flushFailure, hflushes]
        unflushed := by
          rintro - rfl hflushes
          simp [flushFailure, hflushes, Sink.flush]
        written := rfl }

end Command

namespace Session

/-- On a sink that accepts `n` bytes and then fails, every command and the writing of every report
is what it is on a sink that never fails, cut off: the first `n` bytes are accepted, a fault is
reported if there are more, and nothing else changes unless the sink has to be flushed. -/
theorem limited_cuts (s : Session) (n : Nat) (flushable : Bool) :
    (∀ config files command, (Command.run s config files (.limited n flushable) command).IsCut
      (Command.run s config files .unlimited command) files command n flushable) ∧
    ∀ kind scope d, IsCutReport (s.writeReport kind scope d (.limited n flushable))
      (s.writeReport kind scope d .unlimited) n flushable := by
  refine ⟨fun config files command => ?_, fun kind scope d =>
    isCutReport_writeReport s kind scope d n flushable⟩
  obtain ⟨bs, files', failure, hoffers⟩ := Command.exists_offers_run s config files command
  exact hoffers.isCut n flushable

/-! ### A report and a listing cut off -/

section Cut

open Sample (classA classB)

def classTable : List (List String) :=
  [["class", "kind", "file", "line"], ["A", "Class", "AB.src", "1"], ["B", "Class", "AB.src", "6"]]

def reportText : String :=
  "class,kind,file,line\nA,Class,AB.src,1\nB,Class,AB.src,6\n"

def listingText : String :=
  "=== Classes ===\n  A (Class)\n  B (Class)\nTotal: 2 classes\n"

theorem IsOver.writeReport_classes_sample {s : Session} (h : s.IsOver sample {}) :
    s.writeReport .classes [classA, classB] ',' .unlimited =
      (⟨Bytes.ofString reportText, none, true⟩, .ok 2) := by
  have hrows : s.rows .classes [classA, classB] = .ok classTable := by
    rw [h.eq_evaluated, h.traversal_eq rfl]
    decide +kernel
  have hcontent : Report.content ',' classTable = Bytes.ofString reportText := by
    decide +kernel
  rw [writeReport_of_neverFails Sink.neverFails_unlimited hrows, hcontent]
  rfl

theorem IsOver.accepted_classes_sample {s : Session} (h : s.IsOver sample {}) :
    (Command.run s {} .empty .unlimited .classes).sink.accepted = Bytes.ofString listingText := by
  rw [h.eq_evaluated, h.traversal_eq rfl]
  decide +kernel

/-- A report is cut off within its second row, and a listing within its second class. All of the
report is delivered to a sink that cannot be flushed. -/
theorem limited_cuts_sample : ∃ s, start sample {} = .ok s ∧
    (let cut := s.writeReport .classes [classA, classB] ',' (.limited 45 true)
    cut.1.accepted = Bytes.ofString "class,kind,file,line\nA,Class,AB.src,1\nB,Class" ∧
    cut.2 = .error (.io Report.sinkName .sinkFull)) ∧
    (let unflushed := s.writeReport .classes [classA, classB] ',' (.limited 55 false)
    unflushed.1.accepted = Bytes.ofString reportText ∧
    unflushed.2 = .error (.io Report.sinkName .flushFailed)) ∧
    let listed := Command.run s {} .empty (.limited 31 true) .classes
    listed.sink.accepted = Bytes.ofString "=== Classes ===\n  A (Class)\n  B" ∧
    listed.failure = some (.output .sinkFull) := by
  obtain ⟨s, hs⟩ := exists_start_sample
  have hover := start_eq_ok_iff.mp hs
  have hcut := (limited_cuts s 45 true).2 .classes [classA, classB] ','
  have hunflushed := (limited_cuts s 55 false).2 .classes [classA, classB] ','
  rw [hover.writeReport_classes_sample] at hcut hunflushed
  have hlisted := (limited_cuts s 31 true).1 {} .empty .classes
  have hclasses := hover.accepted_classes_sample
  have hlength : (Bytes.ofString reportText).length = 55 := by decide +kernel
  have hless : 31 < (Bytes.ofString listingText).length := by decide +kernel
  refine ⟨s, hs, ⟨?_, ?_⟩, ⟨?_, ?_⟩, ?_, ?_⟩
  · exact hcut.accepted.trans (by decide +kernel)
  · apply hcut.full
    rw [hlength]
    decide
  · rw [hunflushed.accepted]
    exact List.take_of_length_le (Nat.le_of_eq hlength)
  · exact hunflushed.unflushed (Nat.le_of_eq hlength) rfl
  · rw [hlisted.accepted, hclasses]
    decide +kernel
  · -- only an export names its sink
    obtain ⟨failure, hfailure, hsink⟩ := hlisted.full (hclasses ▸ hless)
    cases hsink
    exact hfailure

end Cut

end Session

end CodeGraph
