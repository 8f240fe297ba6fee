import CodeGraph.Listing
import CodeGraph.Session

/-!
# Listings of entities and references

## Main definitions

* `Listing.summary` — what a database holds
* `Listing.classes`, `Listing.methods` — classes, and the methods of one
* `Listing.calls`, `Listing.refs` — the calls of a method, and the references of a variable
-/

namespace CodeGraph.Listing

/-- An entity with its kind. -/
def entityLine (e : Entity) : String :=
  s!"  {e.longname} ({e.kind.name})"

/-- A title and the entities that a filter selects. -/
def titled (s : Session) (title filter : String) : Listing :=
  ofLines ["", title ++ ":"] ++
    query (s.select filter) fun found => ofLines (found.map entityLine)

/-- The name and languages of the database, the number of its entities, its classes and its
methods. -/
def summary (s : Session) : Listing :=
  ofLines ["Database: " ++ s.database.name,
    "Languages: " ++ ", ".intercalate s.database.languages,
    "Entities: " ++ toString s.catalog.size] ++
  titled s "Classes" "class" ++ titled s "Methods" "method"

/-- The classes, by the filter of the settings. -/
def classes (s : Session) (filters : FilterConfig) : Listing :=
  query (s.select filters.classKinds) fun found =>
    ofLines (["=== Classes ==="] ++ found.map entityLine ++ [s!"Total: {found.length} classes"])

/-- A method with its type and the line that defines it. -/
def methodLine (e : Edge) : String :=
  s!"  {e.far.name} (type: {e.far.typeAnnotation}, line: " ++ numeral e.position.line ++ ")"

/-- The methods that a class defines. -/
def methods (s : Session) (className : String) : Listing :=
  query (s.require className (some "class") "class") fun c =>
    ofLines [s!"=== Methods of {className} ==="] ++
    query (s.refs c.id (some "define") (some "method") true) fun found =>
      ofLines (found.map methodLine)

/-- The far end of a call, behind an arrow. -/
def callLine (arrow : String) (e : Edge) : String :=
  s!"  {arrow} {e.far.longname} (line: " ++ numeral e.position.line ++ ")"

/-- What a method calls and what calls it, each once. -/
def calls (s : Session) (method : String) : Listing :=
  query (s.require method (some "method") "method") fun m =>
    ofLines [s!"=== Methods called by {m.longname} ==="] ++
    query (s.refs m.id (some "call") (some "method") true) (fun found =>
      ofLines (found.map (callLine "->"))) ++
    ofLines [s!"=== Methods calling {m.longname} ==="] ++
    query (s.refs m.id (some "callby") (some "method") true) fun found =>
      ofLines (found.map (callLine "<-"))

/-- A reference with its relation and place. -/
def refLine (e : Edge) : String :=
  s!"  {e.far.longname} (kind: {e.kind.name}, file: {e.file.name}, line: " ++
    numeral e.position.line ++ ", column: " ++ numeral e.position.column ++ ")"

/-- Every reference of a variable. -/
def refs (s : Session) (filters : FilterConfig) (variableName : String) : Listing :=
  query (s.require variableName (some filters.variableKinds) "variable") fun v =>
    ofLines [s!"=== References of {v.longname} ==="] ++
    query (s.refs v.id none none false) fun found => ofLines (found.map refLine)

end CodeGraph.Listing
