import CodeGraph.KindFilter
import CodeGraph.Token

/-!
# Settings

The settings of a run, in five sections. Every setting has a default.

## Main definitions

* `Config` — the five sections
* `Config.validate` — every filter parses and the delimiter can be used
-/

namespace CodeGraph

/-- The filters that choose what a listing or a report is about. -/
structure FilterConfig where
  classKinds : String := "class ~unknown ~unresolved"
  methodKinds : String := "method"
  fileKinds : String := "file ~unknown ~unresolved"
  variableKinds : String := "variable"
  deriving DecidableEq, Repr

/-- The relations and kinds on which traversal rests. -/
structure GraphConfig where
  /-- The kinds of the entities that own a member. -/
  ownerKinds : String := "class"
  /-- The relations that make an entity a member of another; blank for none. -/
  containment : String := "define"
  /-- The relations that are no dependencies; blank for none. -/
  dependencyExclude : String := "define"
  deriving DecidableEq, Repr

/-- How reports are written. -/
structure ExportConfig where
  delimiter : Char := ','
  deriving DecidableEq, Repr

/-- The limits of listings. -/
structure DisplayConfig where
  /-- How many references of one dependency are shown. -/
  detailLimit : Nat := 3
  /-- How many tokens of a file are shown. -/
  tokenLimit : Nat := 20
  deriving DecidableEq, Repr

/-- The settings of a run. -/
structure Config where
  filters : FilterConfig := {}
  graph : GraphConfig := {}
  «export» : ExportConfig := {}
  lexer : TokenSelection := {}
  display : DisplayConfig := {}
  deriving DecidableEq, Repr

namespace Config

/-- The filter expressions of the settings, in order of their check. -/
def expressions (c : Config) : List String :=
  [c.filters.classKinds, c.filters.methodKinds, c.filters.fileKinds, c.filters.variableKinds,
    c.graph.ownerKinds, c.graph.containment, c.graph.dependencyExclude]

/-- The delimiter is neither a double quote nor a line break. -/
def isUsableDelimiter (d : Char) : Bool :=
  !(d == '"' || d == '\r' || d == '\n')

/-- Every filter parses and the delimiter can be used. -/
def validate (c : Config) : Except Error Unit := do
  c.expressions.forM fun expr => discard (KindFilter.parse expr)
  if isUsableDelimiter c.export.delimiter then return ()
  else throw (.unusableDelimiter c.export.delimiter)

end Config

end CodeGraph
