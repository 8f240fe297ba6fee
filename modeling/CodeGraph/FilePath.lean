/-!
# File paths

A path is a text with components between slashes. Empty components and single dots stand for
nothing, except a dot at the front of a relative path.

## Main definitions

* `FilePath.fileName?`, `FilePath.extension?` — the last component and its extension
* `FilePath.parent?` — the path without its last component
* `FilePath.sibling` — a file in the directory of another
* `FilePath.nameLimit`, `FilePath.pathLimit` — how long a component and a path can be
-/

namespace CodeGraph.FilePath

/-- How many bytes a component can have. -/
def nameLimit : Nat :=
  255

/-- How many bytes a path can have. -/
def pathLimit : Nat :=
  4095

/-- The component that leads to the directory above. -/
def above : List Char :=
  ['.', '.']

/-- The texts between the slashes of a path. -/
def segments (path : String) : List (List Char) :=
  path.toList.splitOnP (· == '/')

/-- The segment stands for nothing. -/
def isIdle (segment : List Char) : Bool :=
  segment == [] || segment == ['.']

/-- The last component, unless the path ends in the directory above. -/
def fileName? (path : String) : Option (List Char) :=
  match ((segments path).filter (! isIdle ·)).getLast? with
  | some name => if name == above then none else some name
  | none => none

/-- What follows the last dot of the file name. A dot at its front begins no extension. -/
def extension? (path : String) : Option (List Char) :=
  match fileName? path with
  | none => none
  | some name =>
    let stem := (name.reverse.dropWhile (· != '.')).drop 1
    if stem.isEmpty then none else some (name.reverse.takeWhile (· != '.')).reverse

/-- The extension of the path is `json`, in letters of any case. -/
def isJson (path : String) : Bool :=
  (extension? path).map (·.map Char.toLower) == some ['j', 's', 'o', 'n']

/-- The segments without the idle ones at the end; the first segment stays. -/
def trimSegments (segments : List (List Char)) : List (List Char) :=
  match segments with
  | [] => []
  | first :: rest => first :: (rest.reverse.dropWhile isIdle).reverse

/-- The path without its last component. The root and the empty path have no parent. -/
def parent? (path : String) : Option String :=
  match trimSegments (segments path) with
  | [] | [[]] => none
  | [_] => some ""
  | named =>
    match trimSegments named.dropLast with
    | [[]] => some "/"
    | upper => some (String.ofList (['/'].intercalate upper))

/-- The path of the file `name` in the directory of `path`. -/
def sibling (path name : String) : String :=
  match parent? path with
  | none => name
  | some dir =>
    if dir.isEmpty then name
    else if dir.endsWith "/" then dir ++ name
    else dir ++ "/" ++ name

end CodeGraph.FilePath
