import CodeGraph.Dependency
import CodeGraph.Text.Delimited

/-!
# Reports

A report is a table: a header, then a block of rows for each entity of its scope, in the order of
the scope. It is written as delimited text.

## Main definitions

* `ReportKind.parse` — the report with a name
* `ReportKind.scopeFilter` — the filter that selects the scope by default
* `Session.entityRows` — the rows of one entity
* `Session.rows` — the whole table
* `Report.line` — a row as delimited text
-/

namespace CodeGraph

namespace ReportKind

/-- The report with a name, whatever the case of its letters and the blanks around it. -/
def parse (text : String) : Except Error ReportKind :=
  let wanted := String.ofList ((Text.trim text.toList).map Char.toLower)
  match all.find? (·.name == wanted) with
  | some kind => .ok kind
  | none => .error (.unknownReport text)

/-- The filter that selects the entities of a report by default. -/
def scopeFilter (filters : FilterConfig) : ReportKind → String
  | classes | methods | depends => filters.classKinds
  | calls | calledBy => filters.methodKinds
  | refs => filters.variableKinds

end ReportKind

namespace Session

/-- The entities of a report by default. -/
def scope (s : Session) (kind : ReportKind) (filters : FilterConfig) :
    Except Error (List Entity) :=
  s.select (kind.scopeFilter filters)

/-- The long name of the owning class, empty without one. -/
def className (s : Session) (id : EntityId) : Except Error String := do
  let owner ← s.ownerClass id
  return (owner.map (·.longname)).getD ""

/-- The row of a class: where it is first defined. -/
def classRows (s : Session) (e : Entity) : Except Error (List (List String)) := do
  let defined ← s.refs e.id (some "definein") none false
  let place := match defined.head? with
    | some r => [r.file.name, numeral r.position.line]
    | none => ["", "0"]
  return [[e.longname, e.kind.name] ++ place]

/-- The rows of a class: the methods that it defines. -/
def methodRows (s : Session) (e : Entity) : Except Error (List (List String)) := do
  let methods ← s.refs e.id (some "define") (some "method") true
  return methods.map fun r =>
    [e.longname, r.far.name, r.far.typeAnnotation, r.file.name, numeral r.position.line]

/-- The rows of a method: its calls, or the calls to it. -/
def callRows (s : Session) (relation : String) (e : Entity) :
    Except Error (List (List String)) := do
  let ownClass ← s.className e.id
  let calls ← s.refs e.id (some relation) (some "method") false
  calls.mapM fun r => do
    let farClass ← s.className r.far.id
    return [ownClass, e.name, farClass, r.far.name, r.file.name, numeral r.position.line]

/-- The rows of an entity: what it depends on, with the number of references. -/
def dependencyRows (s : Session) (e : Entity) : Except Error (List (List String)) := do
  let map ← s.dependencies e.id
  return map.entries.map fun (target, refs) =>
    [e.longname, target.longname, toString refs.length]

/-- The rows of an entity: all of its references. -/
def referenceRows (s : Session) (e : Entity) : Except Error (List (List String)) := do
  let refs ← s.refs e.id none none false
  return refs.map fun r =>
    [r.near.longname, r.kind.name, r.far.longname, r.file.name, numeral r.position.line,
      numeral r.position.column]

/-- The rows of one entity. -/
def entityRows (s : Session) (kind : ReportKind) (e : Entity) :
    Except Error (List (List String)) :=
  match kind with
  | .classes => s.classRows e
  | .methods => s.methodRows e
  | .calls => s.callRows "call" e
  | .calledBy => s.callRows "callby" e
  | .depends => s.dependencyRows e
  | .refs => s.referenceRows e

/-- The header of a report and the rows of every entity of its scope. Where the rows of several
entities cannot be made, the failure is that of the first of them; the rows do not depend on each
other, so that the failure of any other could be reported as well. -/
def rows (s : Session) (kind : ReportKind) (scope : List Entity) :
    Except Error (List (List String)) := do
  let blocks ← scope.mapM (s.entityRows kind)
  return kind.header :: blocks.flatten

end Session

namespace Report

/-- A field as delimited text. -/
def field (delimiter : Char) (text : String) : String :=
  String.ofList (Text.Delimited.encodeField delimiter text.toList)

/-- A row as delimited text, without its line feed. -/
def line (delimiter : Char) (row : List String) : String :=
  String.ofList (Text.Delimited.encodeRecord delimiter (row.map String.toList))

end Report

end CodeGraph
