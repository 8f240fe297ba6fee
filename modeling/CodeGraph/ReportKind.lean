/-!
# The kinds of report

Six tables can be made from a database. Each has a name and a header.

## Main definitions

* `ReportKind` — the six reports
* `ReportKind.header` — the titles of the columns
-/

namespace CodeGraph

/-- A kind of report. -/
inductive ReportKind where
  | classes
  | methods
  | calls
  | calledBy
  | depends
  | refs
  deriving DecidableEq, Repr

namespace ReportKind

/-- Every kind of report. -/
def all : List ReportKind :=
  [classes, methods, calls, calledBy, depends, refs]

/-- The name by which a report is asked for. -/
def name : ReportKind → String
  | classes => "classes"
  | methods => "methods"
  | calls => "calls"
  | calledBy => "calledby"
  | depends => "depends"
  | refs => "refs"

/-- The titles of the columns. -/
def header : ReportKind → List String
  | classes => ["class", "kind", "file", "line"]
  | methods => ["class", "method", "type", "file", "line"]
  | calls =>
    ["caller_class", "caller_method", "callee_class", "callee_method", "file", "line"]
  | calledBy => ["class", "method", "caller_class", "caller_method", "file", "line"]
  | depends => ["source", "target", "references"]
  | refs => ["entity", "kind", "referenced", "file", "line", "column"]

end ReportKind

end CodeGraph
