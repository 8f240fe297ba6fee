import CodeGraph.FileTree
import CodeGraph.Snapshot.Binary
import CodeGraph.Snapshot.Json

/-!
# Snapshot files

A snapshot is kept in a file: in JSON if the extension of its path is `json`, in letters of any
case, and in binary form otherwise.

## Main definitions

* `Snapshot.fileContent`, `Snapshot.ofFileContent` — a snapshot as the content of a file
* `Snapshot.load` — the snapshot kept at a path
* `Snapshot.save` — the file tree with a snapshot kept at a path
-/

namespace CodeGraph.Snapshot

/-- The content of the file at a path that keeps the snapshot. -/
def fileContent (s : Snapshot) (path : String) : Bytes :=
  if FilePath.isJson path then s.toJson.print else s.toBinary

/-- The snapshot that the content of the file at a path keeps. -/
def ofFileContent (path : String) (content : Bytes) : Except Codec.Fault Snapshot :=
  if FilePath.isJson path then
    match (Json.parse? content).bind ofJson? with
    | some s => .ok s
    | none => .error .malformed
  else ofBinary content

/-- The error for a file at a path that keeps no snapshot. -/
def unreadable (path : String) : Codec.Fault → Error
  | .malformed => .malformedSnapshot path
  | .outOfMemory => .outOfMemory
  | .lengthOverflow => .lengthOverflow

/-- The snapshot kept by what stands at a path. -/
def ofNode (path : String) (n : FileNode) : Except Error Snapshot :=
  match n.content? with
  | none => .error (.malformedSnapshot path)
  | some content => (ofFileContent path content).mapError (unreadable path)

/-- The snapshot kept at a path. -/
def load (files : FileTree) (path : String) : Except Error Snapshot :=
  match files.node path with
  | .ok n => ofNode path n
  | .error fault => .error (.io path fault)

/-- How many bytes of a snapshot are held back before they are written out. -/
def writeBlock : Nat :=
  8192

/-- The file tree with the snapshot kept at a path. A device that is found full while the snapshot
is still being encoded makes it unencodable; one that is found full at the end is an i/o
failure. -/
def save (s : Snapshot) (files : FileTree) (path : String) : Except Error FileTree :=
  let content := s.fileContent path
  match files.replace path content with
  | .ok files => .ok files
  | .error fault =>
    if fault = .deviceFull && writeBlock < content.length then .error (.malformedSnapshot path)
    else .error (.io path fault)

end CodeGraph.Snapshot
