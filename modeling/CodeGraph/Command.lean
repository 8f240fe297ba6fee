/-!
# Commands

A command asks for one listing of a database or for the export of a report.
-/

namespace CodeGraph

/-- What is asked of a database. -/
inductive Command where
  /-- Name and languages of the database, its classes and its methods. -/
  | summary
  | classes
  /-- The methods that a class defines. -/
  | methods (className : String)
  /-- What a method calls and what calls it. -/
  | calls (method : String)
  /-- Every reference of a variable. -/
  | refs (variableName : String)
  /-- The tokens of a file, up to a limit. -/
  | lexer (file : String) (limit : Option Nat)
  | fileDeps
  | classDeps
  /-- A report, on the default scope unless a filter is given, to a file if one is given. -/
  | exportReport (report : String) (output : Option String) (filter : Option String)
  deriving DecidableEq, Repr

end CodeGraph
