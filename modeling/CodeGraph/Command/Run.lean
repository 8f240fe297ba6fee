import CodeGraph.Command
import CodeGraph.Listing.Dependencies
import CodeGraph.Listing.Tokens
import CodeGraph.Report.Export

/-!
# Running commands

A command prints to a sink. Only the export of a report to a file changes a file.

## Main definitions

* `Command.run` — run a command over a session
-/

namespace CodeGraph

namespace Command

/-- What a command has printed, the files after it, and why it failed, if it did. -/
structure Outcome where
  sink : Sink
  files : FileTree
  failure : Option ListingFailure

/-- The outcome of printing a listing. -/
def print (files : FileTree) (sink : Sink) (l : Listing) : Outcome :=
  let (sink, failure) := l.write sink
  ⟨sink, files, failure⟩

/-- The outcome of a failure before anything is printed. -/
def refuse (files : FileTree) (sink : Sink) (e : Error) : Outcome :=
  ⟨sink, files, some (.query e)⟩

/-- The entities of a report, by a filter or else by default. -/
def scope (s : Session) (config : Config) (kind : ReportKind) :
    Option String → Except Error (List Entity)
  | some filter => s.select filter
  | none => s.scope kind config.filters

/-- The report with a name and its entities. -/
def reportOf (s : Session) (config : Config) (report : String) (filter : Option String) :
    Except Error (ReportKind × List Entity) := do
  let kind ← ReportKind.parse report
  return (kind, ← scope s config kind filter)

/-- The message after the export of a report to a file. -/
def exportLine (kind : ReportKind) (count : Nat) (path : String) : String :=
  s!"Exported {count} {kind.name} rows to {path}"

/-- Export a report to the sink. -/
def exportToSink (s : Session) (config : Config) (files : FileTree) (sink : Sink)
    (kind : ReportKind) (scope : List Entity) : Outcome :=
  match s.writeReport kind scope config.export.delimiter sink with
  | (sink, .error e) => refuse files sink e
  | (sink, .ok _) => ⟨sink, files, none⟩

/-- Export a report along a path that leads to standard output, with the message after it. The sink
is taken to be this stream, so that it gets the report and the message. A sink that is not would get
the message only. The sink is not flushed, as the path is not known to lead to one. -/
def exportAlongPath (s : Session) (config : Config) (files : FileTree) (sink : Sink)
    (kind : ReportKind) (scope : List Entity) (path : String) : Outcome :=
  match s.rows kind scope with
  | .error e => refuse files sink e
  | .ok rows =>
    match sink.writeLines (Report.lines config.export.delimiter rows) with
    | (sink, some fault) => refuse files sink (.io path fault)
    | (sink, none) =>
      print files sink (Listing.ofLines [exportLine kind (Report.dataCount rows) path])

/-- Export a report to a file, or to the sink if there is none. A path may lead to standard output,
too. The report then goes to the sink, as a sink is taken to be the standard output of the process;
of no other sink does this hold. -/
def runExport (s : Session) (config : Config) (files : FileTree) (sink : Sink) (report : String)
    (output filter : Option String) : Outcome :=
  match reportOf s config report filter with
  | .error e => refuse files sink e
  | .ok (kind, scope) =>
    -- in all cases all rows are made first, so a failing query leaves sink and files alone
    match output with
    | none => exportToSink s config files sink kind scope
    | some path =>
      match files.node path with
      | .ok .standardOutput => exportAlongPath s config files sink kind scope path
      | _ =>
        match s.exportReport kind scope config.export.delimiter files path with
        | .error e => refuse files sink e
        | .ok (files, count) =>
          print files sink (Listing.ofLines [exportLine kind count path])

/-- Run a command over a session. -/
def run (s : Session) (config : Config) (files : FileTree) (sink : Sink) : Command → Outcome
  | summary => print files sink (Listing.summary s)
  | classes => print files sink (Listing.classes s config.filters)
  | methods className => print files sink (Listing.methods s className)
  | calls method => print files sink (Listing.calls s method)
  | refs variableName => print files sink (Listing.refs s config.filters variableName)
  | lexer file limit =>
    print files sink
      (Listing.tokens s config.lexer file (limit.getD config.display.tokenLimit))
  | fileDeps => print files sink (Listing.fileDependencies s config.filters)
  | classDeps =>
    print files sink (Listing.classDependencies s config.filters config.display.detailLimit)
  | exportReport report output filter => runExport s config files sink report output filter

end Command

end CodeGraph
