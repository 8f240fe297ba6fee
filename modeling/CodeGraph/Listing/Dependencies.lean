import CodeGraph.Dependency
import CodeGraph.Listing.Entities

/-!
# Listings of dependencies

## Main definitions

* `Listing.fileDependencies` — what each file depends on
* `Listing.classDependencies` — what each class depends on, with details, and what uses it
-/

namespace CodeGraph.Listing

/-- An entity reached, behind an arrow, with the number of references. -/
def dependencyLine (arrow name : String) (refs : List Edge) : String :=
  s!"  {arrow} {name} ({refs.length} references)"

/-- A heading and the lines of the entries, or nothing without entries. -/
def dependencyBlock (heading : String) (lines : Entity × List Edge → List String)
    (m : DependencyMap) : Listing :=
  if m.isEmpty then ofLines [] else ofLines (heading :: m.entries.flatMap lines)

/-- What each file depends on. -/
def fileDependencies (s : Session) (filters : FilterConfig) : Listing :=
  ofLines ["=== File dependencies ==="] ++
  query (s.select filters.fileKinds) fun files =>
    each files fun file =>
      query (s.dependencies file.id)
        (dependencyBlock (file.name ++ " depends on:") fun (target, refs) =>
          [dependencyLine "->" target.name refs])

/-- A reference with its file, its line and its relation. -/
def detailLine (e : Edge) : String :=
  s!"      {e.file.name} line " ++ numeral e.position.line ++ s!" ({e.kind.name})"

/-- An entity reached, with the first of its references and the number of the others. -/
def detailedLines (limit : Nat) (entry : Entity × List Edge) : List String :=
  let (target, refs) := entry
  let others := if limit < refs.length then [s!"      ... {refs.length - limit} more"] else []
  dependencyLine "->" target.longname refs :: (refs.take limit).map detailLine ++ others

/-- What one class depends on and what uses it, and an empty line. -/
def classBlock (s : Session) (limit : Nat) (c : Entity) : Listing :=
  query (s.dependencies c.id)
    (dependencyBlock (c.longname ++ " depends on:") (detailedLines limit)) ++
  query (s.dependents c.id)
    (dependencyBlock (c.longname ++ " is used by:") fun (source, refs) =>
      [dependencyLine "<-" source.longname refs]) ++
  ofLines [""]

/-- What each class depends on and what uses it. -/
def classDependencies (s : Session) (filters : FilterConfig) (limit : Nat) : Listing :=
  ofLines ["=== Class dependencies ==="] ++
  query (s.select filters.classKinds) fun found => each found (classBlock s limit)

end CodeGraph.Listing
