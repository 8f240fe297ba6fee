import CodeGraph.Command.Run
import CodeGraph.Proofs.Report.Writing

/-!
# What commands print

An act that prints offers the same bytes to every sink, and what becomes of it depends on the sink
only through its faults. A refused act offers nothing, a listing its lines, and an export the
report, the message after it, or both.

## Main definitions

* `Command.Offers` — the same bytes are offered to every sink

## Main results

* `Command.Offers.of_neverFails` — the outcome on a sink that never fails
* `Command.runExport_of_reportOf_eq_error`, `Command.runExport_of_rows_eq_error` — exports without a
  report
-/

namespace CodeGraph

namespace Command

/-- What is reported of a sink that has accepted everything, if it is flushed. -/
def flushFailure (flushes : Bool) (sink : Sink) : Option ListingFailure :=
  if flushes then sink.flush.map fun fault => .query (.io Report.sinkName fault) else none

/-- Whatever sink it is given, an act offers it the same bytes and leaves the same files. A fault of
the sink is reported; without one the act fails as it does on every sink, or in the flushing. -/
structure Offers (act : Sink → Outcome) (bs : Bytes) (files : FileTree)
    (failure : Option ListingFailure) (flushes : Bool)
    (reported : IoFault → ListingFailure → Prop) : Prop where
  fault {sink after : Sink} {fault : IoFault} (h : sink.write bs = (after, some fault)) :
    ∃ failure, act sink = ⟨after, files, some failure⟩ ∧ reported fault failure
  fits {sink after : Sink} (h : sink.write bs = (after, none)) :
    act sink = ⟨after, files, failure.or (flushFailure flushes after)⟩

section Offers

variable {s : Session} {config : Config} {files : FileTree} {kind : ReportKind} {es : List Entity}
  {rows : List (List String)} {path : String} {act : Sink → Outcome} {sink : Sink} {bs : Bytes}
  {failure : Option ListingFailure} {flushes : Bool}
  {reported reported' : IoFault → ListingFailure → Prop}

theorem Offers.imp (h : Offers act bs files failure flushes reported)
    (himp : ∀ fault failure, reported fault failure → reported' fault failure) :
    Offers act bs files failure flushes reported' where
  fault hwrite :=
    let ⟨failure, hact, hreported⟩ := h.fault hwrite
    ⟨failure, hact, himp _ failure hreported⟩
  fits := h.fits

/-- A sink that never fails takes what it is offered. -/
theorem Offers.of_neverFails (h : Offers act bs files failure flushes reported)
    (hsink : sink.NeverFails) :
    act sink = ⟨{ sink with accepted := sink.accepted ++ bs }, files, failure⟩ := by
  rw [h.fits (Sink.write_unbounded hsink.capacity bs), flushFailure]
  cases flushes <;> simp [Sink.flush, hsink.flushable]

/-- A refused act offers nothing. -/
theorem offers_refuse (files : FileTree) (e : Error) (flushes : Bool)
    (reported : IoFault → ListingFailure → Prop) :
    Offers (refuse files · e) [] files (some (.query e)) flushes reported where
  fault h := by
    rw [Sink.write_nil] at h
    cases h
  fits h := by
    rw [Sink.write_nil] at h
    cases h
    rfl

/-- Printing offers the lines of the listing. -/
theorem offers_print (files : FileTree) (l : Listing) :
    Offers (print files · l) (Bytes.ofLines l.lines) files (l.failure.map .query) false
      fun fault failure => failure = .output fault where
  fault {sink after fault} h := by
    rw [← Sink.writeLines_eq_write] at h
    exact ⟨.output fault, by rw [print, Listing.write, h], rfl⟩
  fits h := by
    rw [← Sink.writeLines_eq_write] at h
    rw [print, Listing.write, h]
    simp [flushFailure]

/-- An export to the sink offers the report and flushes. -/
theorem offers_exportToSink (hrows : s.rows kind es = .ok rows) (config : Config)
    (files : FileTree) :
    Offers (exportToSink s config files · kind es) (Report.content config.export.delimiter rows)
      files none true fun fault failure => failure = .query (.io Report.sinkName fault) where
  fault {sink after fault} h := by
    refine ⟨.query (.io Report.sinkName fault), ?_, rfl⟩
    rw [exportToSink, Session.writeReport_of_fault hrows h]
    rfl
  fits {sink after} h := by
    rw [exportToSink, Session.writeReport_of_fits hrows h, flushFailure]
    cases after.flush <;> rfl

theorem exportAlongPath_of_fault (hrows : s.rows kind es = .ok rows) {after : Sink}
    {fault : IoFault}
    (hwrite : sink.write (Report.content config.export.delimiter rows) = (after, some fault)) :
    exportAlongPath s config files sink kind es path = refuse files after (.io path fault) := by
  rw [Report.write_content] at hwrite
  rw [exportAlongPath, hrows]
  dsimp only
  rw [hwrite]

/-- Once the whole report has been accepted the message is printed. -/
theorem exportAlongPath_of_fits (hrows : s.rows kind es = .ok rows) {after : Sink}
    (hwrite : sink.write (Report.content config.export.delimiter rows) = (after, none)) :
    exportAlongPath s config files sink kind es path =
      print files after (Listing.ofLines [exportLine kind (Report.dataCount rows) path]) := by
  rw [Report.write_content] at hwrite
  rw [exportAlongPath, hrows]
  dsimp only
  rw [hwrite]

/-- An export along a path that leads to the sink offers the report and then the message. -/
theorem offers_exportAlongPath (hrows : s.rows kind es = .ok rows) (config : Config)
    (files : FileTree) (path : String) :
    Offers (exportAlongPath s config files · kind es path)
      (Report.content config.export.delimiter rows ++
        Bytes.ofLines [exportLine kind (Report.dataCount rows) path])
      files none false
      fun fault failure => failure = .query (.io path fault) ∨ failure = .output fault := by
  have hmessage := offers_print files
    (Listing.ofLines [exportLine kind (Report.dataCount rows) path])
  constructor
  case fault =>
    intro sink after fault h
    obtain ⟨written, first, hwrite⟩ : ∃ written first,
        sink.write (Report.content config.export.delimiter rows) = (written, first) :=
      ⟨_, _, rfl⟩
    rw [Sink.write_append, hwrite] at h
    -- the fault comes in the report or in the message
    cases first with
    | some fault' =>
      cases h
      exact ⟨_, exportAlongPath_of_fault hrows hwrite, Or.inl rfl⟩
    | none =>
      obtain ⟨failure, hprint, hfailure⟩ := hmessage.fault h
      exact ⟨failure, (exportAlongPath_of_fits hrows hwrite).trans hprint, Or.inr hfailure⟩
  case fits =>
    intro sink after h
    obtain ⟨written, first, hwrite⟩ : ∃ written first,
        sink.write (Report.content config.export.delimiter rows) = (written, first) :=
      ⟨_, _, rfl⟩
    rw [Sink.write_append, hwrite] at h
    cases first with
    | some fault' => cases h
    | none => exact (exportAlongPath_of_fits hrows hwrite).trans (hmessage.fits h)

end Offers

/-! ### Exports without a report -/

section Export

variable {s : Session} {config : Config} {kind : ReportKind} {es : List Entity} {report : String}
  {filter : Option String}

/-- Without the report and its entities nothing is written anywhere. -/
theorem runExport_of_reportOf_eq_error {e : Error}
    (h : reportOf s config report filter = .error e) (files : FileTree) (sink : Sink)
    (output : Option String) :
    runExport s config files sink report output filter = refuse files sink e := by
  rw [runExport, h]

/-- Without all rows nothing is written anywhere. -/
theorem runExport_of_rows_eq_error {e : Error}
    (hreport : reportOf s config report filter = .ok (kind, es))
    (hrows : s.rows kind es = .error e) (files : FileTree) (sink : Sink)
    (output : Option String) :
    runExport s config files sink report output filter = refuse files sink e := by
  rw [runExport, hreport]
  cases output with
  | none =>
    dsimp only
    rw [exportToSink, Session.writeReport, hrows]
  | some path =>
    dsimp only
    split
    · rw [exportAlongPath, hrows]
    · rw [Session.exportReport, hrows]
      rfl

end Export

end Command

end CodeGraph
