import CodeGraph.Bytes
import CodeGraph.Error
import CodeGraph.FilePath

/-!
# File trees

A file tree holds directories, files and a few devices. Paths start in the root or in the working
directory, which stands in the directory for temporary files. Above the root there is nothing: the
directory above it is the root again.

## Main definitions

* `FileTree.empty` — the directories and devices that are always there
* `FileTree.node` — what stands at a path
* `FileTree.replace` — write a file, in place of what it held
* `FileTree.makeDirectory` — add a directory and those that lead to it
-/

namespace CodeGraph

/-- What can stand at a path. -/
inductive FileNode where
  | directory
  | file (content : Bytes)
  /-- A device that reads as zeros and accepts nothing. -/
  | fullDevice
  /-- A device that reads as nothing and keeps nothing. -/
  | nullDevice
  /-- A device that reads as zeros and keeps nothing. -/
  | zeroDevice
  /-- What the program prints. It reads as nothing. -/
  | standardOutput
  deriving DecidableEq, Repr

/-- The bytes that reading gives. A directory cannot be read. The zeros of a device have no end; no
reader takes more than these. -/
def FileNode.content? : FileNode → Option Bytes
  | directory => none
  | file content => some content
  | fullDevice | zeroDevice => some (List.replicate 64 0)
  | nullDevice | standardOutput => some []

/-- A place in a file tree: the names that lead to it from the root. -/
abbrev FileKey : Type :=
  List (List Char)

/-- The nodes of a file tree by place. The root itself is not listed. -/
structure FileTree where
  nodes : List (FileKey × FileNode)

namespace FileTree

/-- The place of the root. -/
def root : FileKey :=
  []

/-- The place where relative paths start. -/
def workingDirectory : FileKey :=
  ["tmp".toList, "working-directory".toList]

/-- The directory of the devices. -/
def deviceDirectory : FileKey :=
  ["dev".toList]

/-- The directories that stand in the root of every system. -/
def rootDirectories : List FileKey :=
  ["bin", "boot", "etc", "home", "lib", "media", "mnt", "opt", "proc", "root", "run", "sbin", "srv",
    "sys", "usr", "var"].map fun name => [name.toList]

/-- The working directory without files, the devices, and the directories that are always there. -/
def empty : FileTree :=
  ⟨[(workingDirectory.dropLast, .directory), (workingDirectory, .directory),
    (deviceDirectory, .directory),
    (deviceDirectory ++ ["full".toList], .fullDevice),
    (deviceDirectory ++ ["null".toList], .nullDevice),
    (deviceDirectory ++ ["zero".toList], .zeroDevice),
    (deviceDirectory ++ ["stdin".toList], .nullDevice),
    (deviceDirectory ++ ["stdout".toList], .standardOutput),
    (deviceDirectory ++ ["stderr".toList], .nullDevice)] ++ rootDirectories.map (·, .directory)⟩

/-- What stands at a place. -/
def lookup (t : FileTree) (key : FileKey) : Option FileNode :=
  if key == root then some .directory else t.nodes.lookup key

/-- There is a directory at the place. -/
def expectDirectory (t : FileTree) (key : FileKey) : Except IoFault Unit :=
  match t.lookup key with
  | some .directory => .ok ()
  | some _ => .error .notDirectory
  | none => .error .missing

/-- The place of a name in a directory. -/
def child (key : FileKey) (name : List Char) : Except IoFault FileKey :=
  if FilePath.nameLimit < (String.ofList name).utf8ByteSize then .error .nameTooLong
  else .ok (key ++ [name])

/-- The place that segments lead to from a place. -/
def walk (t : FileTree) (key : FileKey) : List (List Char) → Except IoFault FileKey
  | [] => .ok key
  | s :: segments => do
    t.expectDirectory key
    if FilePath.isIdle s then walk t key segments
    else if s == FilePath.above then walk t key.dropLast segments
    else walk t (← child key s) segments

/-- Where a path starts, and its segments from there. A path that cannot stand for anything is
refused. -/
def start (path : String) : Except IoFault (FileKey × List (List Char)) :=
  if path.toList.contains '\x00' then .error .nulCharacter
  else if path.isEmpty then .error .missing
  else if FilePath.pathLimit < path.utf8ByteSize then .error .nameTooLong
  else
    match FilePath.segments path with
    | [] :: segments => .ok (root, segments)
    | segments => .ok (workingDirectory, segments)

/-- The place of a path. -/
def locate (t : FileTree) (path : String) : Except IoFault FileKey := do
  let (key, segments) ← start path
  t.walk key segments

/-- What stands at a path. -/
def node (t : FileTree) (path : String) : Except IoFault FileNode := do
  let key ← t.locate path
  match t.lookup key with
  | some n => return n
  | none => throw .missing

/-- The tree with a node put at a place. -/
def put (t : FileTree) (key : FileKey) (n : FileNode) : FileTree :=
  ⟨(key, n) :: t.nodes.filter (·.1 != key)⟩

/-- The tree with a file written at a path, in place of what stood there. Its directory must exist,
and the path must not end as one of a directory does. -/
def replace (t : FileTree) (path : String) (content : Bytes) : Except IoFault FileTree := do
  let (key, segments) ← start path
  let named := (segments.reverse.dropWhile (· == [])).reverse
  let name := named.getLastD []
  let parent ← t.walk key named.dropLast
  t.expectDirectory parent
  -- a slash at the end, a dot or two dots name a directory
  if named != segments || FilePath.isIdle name || name == FilePath.above then throw .isDirectory
  let place ← child parent name
  match t.lookup place with
  | some .directory => throw .isDirectory
  | some .fullDevice => if content.isEmpty then return t else throw .deviceFull
  | some .nullDevice | some .zeroDevice | some .standardOutput => return t
  | some (.file _) | none => return t.put place (.file content)

/-- The tree with directories along segments from a place, as far as they are missing. -/
def makeDirectories (t : FileTree) (key : FileKey) : List (List Char) → Except IoFault FileTree
  | [] => return t
  | s :: segments => do
    t.expectDirectory key
    if FilePath.isIdle s then makeDirectories t key segments
    else if s == FilePath.above then makeDirectories t key.dropLast segments
    else
      let place ← child key s
      match t.lookup place with
      | none => makeDirectories (t.put place .directory) place segments
      | some .directory => makeDirectories t place segments
      | some _ => throw (if segments.isEmpty then .alreadyExists else .notDirectory)

/-- The tree with a directory at a path and at all paths that lead to it. -/
def makeDirectory (t : FileTree) (path : String) : Except IoFault FileTree := do
  let (key, segments) ← start path
  t.makeDirectories key segments

end FileTree

end CodeGraph
