import CodeGraph.FileTree
import CodeGraph.Report
import CodeGraph.Sink

/-!
# Writing reports

A report is written to a sink or to a file, a line for each row. All rows are made before anything
is written.

## Main definitions

* `Report.content` — a table as bytes
* `Session.writeReport` — write a report to a sink
* `Session.exportReport` — write a report to a file
-/

namespace CodeGraph

namespace Report

/-- What a sink is called in messages. -/
def sinkName : String :=
  "report sink"

/-- The rows as lines of delimited text. -/
def lines (delimiter : Char) (rows : List (List String)) : List String :=
  rows.map (line delimiter)

/-- The rows as bytes of delimited text. -/
def content (delimiter : Char) (rows : List (List String)) : Bytes :=
  (lines delimiter rows).flatMap fun text => Bytes.ofString (text ++ "\n")

/-- The number of rows below the header. -/
def dataCount (rows : List (List String)) : Nat :=
  rows.length - 1

/-- Write rows to a sink and flush it. -/
def write (delimiter : Char) (rows : List (List String)) (sink : Sink) : Sink × Option Error :=
  match sink.writeLines (lines delimiter rows) with
  | (sink, some fault) => (sink, some (.io sinkName fault))
  | (sink, none) => (sink, sink.flush.map (.io sinkName))

/-- The file tree with rows written to a file, in place of what it held. -/
def save (delimiter : Char) (rows : List (List String)) (files : FileTree) (path : String) :
    Except Error FileTree :=
  match files.replace path (content delimiter rows) with
  | .ok files => .ok files
  | .error fault => .error (.io path fault)

end Report

namespace Session

/-- Write a report to a sink. The answer is the number of rows below the header. -/
def writeReport (s : Session) (kind : ReportKind) (scope : List Entity) (delimiter : Char)
    (sink : Sink) : Sink × Except Error Nat :=
  match s.rows kind scope with
  | .error e => (sink, .error e)
  | .ok rows =>
    match Report.write delimiter rows sink with
    | (sink, some e) => (sink, .error e)
    | (sink, none) => (sink, .ok (Report.dataCount rows))

/-- Write a report to a file. The answer is the file tree and the number of rows below the
header. -/
def exportReport (s : Session) (kind : ReportKind) (scope : List Entity) (delimiter : Char)
    (files : FileTree) (path : String) : Except Error (FileTree × Nat) := do
  let rows ← s.rows kind scope
  let files ← Report.save delimiter rows files path
  return (files, Report.dataCount rows)

end Session

end CodeGraph
