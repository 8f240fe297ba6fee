import CodeGraph.Toml.Parser

/-!
# TOML documents

The sections of a document make up one table. A section with a longer name lies inside the section
whose name begins it, whether that one has a header or not. Headers in double brackets with one name
make up an array of tables; what follows such a header belongs to its element, up to the next.

## Main definitions

* `Toml.tableOf` — the table that some sections make up
* `Toml.parse?` — the table of a document
-/

namespace CodeGraph.Toml

namespace Section

/-- The section has the name of the table itself. -/
def isOwn (s : Section) : Bool :=
  s.path.isEmpty

/-- The section as seen from the table under a key, if it lies there. -/
def within? (key : String) (s : Section) : Option Section :=
  match s.path with
  | [] => none
  | k :: path => if k == key then some { s with path } else none

end Section

/-- The first parts of the names of some sections, each once, in order. -/
def keysOf (sections : List Section) : List String :=
  (sections.filterMap (·.path.head?)).eraseDups

/-- The sections cut before each that has the name of the table itself. -/
def elementsOf (sections : List Section) : List (List Section) :=
  (sections.splitBy fun _ s => !(s.isOwn && s.element)).map fun
    | first :: rest => { first with element := false } :: rest
    | [] => []

/-- The entries of the table that some sections make up. At most one of them has the name of the
table itself, and that one adds no element to an array. Names longer than the given number of parts
are not expected. -/
def tableOf : Nat → List Section → Option (List (String × Toml))
  | 0, _ => none
  | n + 1, sections => do
    let own := sections.filter (·.isOwn)
    if 1 < own.length || own.any (·.element) then none
    else
      let inner ← (keysOf sections).mapM fun key => do
        let within := sections.filterMap (Section.within? key)
        -- the first header under a key decides whether it holds a table or an array
        if within.head?.any fun s => s.isOwn && s.element then
          let tables ← (elementsOf within).mapM (tableOf n)
          return (key, array (tables.map (table false)))
        else return (key, table false (← tableOf n within))
      return own.flatMap (·.entries) ++ inner

/-- The length of the longest name of a section. -/
def longestPath (sections : List Section) : Nat :=
  sections.foldl (fun n s => max n s.path.length) 0

/-- The entries of the table that a document holds. -/
def parse? (text : String) : Option (List (String × Toml)) :=
  (sections? text).bind fun sections => tableOf (longestPath sections + 1) sections

end CodeGraph.Toml
