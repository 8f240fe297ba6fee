import CodeGraph.Entity
import CodeGraph.ReportKind

/-!
# Errors

Everything that can go wrong while a database is read, queried or exported, by cause. The wording
is in one place, `Error.message`.

## Main definitions

* `Error` — the causes
* `Error.Category` — what kind of failure a cause is
* `Error.message` — the wording
-/

namespace CodeGraph

/-- The part that an entity plays in a reference. -/
inductive Role where
  | source
  | target
  | file
  deriving DecidableEq, Repr

/-- The part as messages name it. -/
def Role.name : Role → String
  | source => "source"
  | target => "target"
  | file => "file"

/-- Why bytes could not be read or written. -/
inductive IoFault where
  | missing
  | alreadyExists
  | notDirectory
  | isDirectory
  | deviceFull
  /-- A path or one of its components is longer than the file system allows. -/
  | nameTooLong
  /-- A path holds the character U+0000. -/
  | nulCharacter
  | sinkFull
  | flushFailed
  /-- A fault described by the operating system. -/
  | reported (text : String)
  deriving DecidableEq, Repr

/-- The fault in words. -/
def IoFault.message : IoFault → String
  | missing => "No such file or directory (os error 2)"
  | alreadyExists => "File exists (os error 17)"
  | notDirectory => "Not a directory (os error 20)"
  | isDirectory => "Is a directory (os error 21)"
  | deviceFull => "No space left on device (os error 28)"
  | nameTooLong => "File name too long (os error 36)"
  | nulCharacter => "file name contained an unexpected NUL byte"
  | sinkFull => "sink full"
  | flushFailed => "flush failed"
  | reported text => text

/-- The causes of failure. -/
inductive Error where
  /-- A piece of a filter between commas has no words. -/
  | emptyAlternative (filter : String)
  /-- A `~` in a filter stands before no word. -/
  | danglingTilde (filter : String)
  /-- A filter word holds a character that no kind word has. -/
  | unexpectedCharacter (c : Char) (filter : String)
  | duplicateEntity (id : EntityId)
  /-- A reference, by its number, names an entity that is not stored. -/
  | danglingReference (role : Role) (id : EntityId) (record : Nat)
  | tokensOfUnknownFile (file : EntityId)
  /-- A token of a file names an entity that is not stored. -/
  | tokenOfUnknownEntity (file entity : EntityId)
  | tokensRecordedTwice (file : EntityId)
  | emptyName
  | unknownEntity (id : EntityId)
  /-- Tokens were asked of an entity that is not a file. -/
  | notAFile (longname kind : String)
  | unknownReport (text : String)
  /-- The delimiter is a quote or ends a line. -/
  | unusableDelimiter (c : Char)
  /-- A settings file does not parse or does not fit the settings. -/
  | malformedConfig
  /-- No entity in scope has the name. -/
  | notFound (what name : String)
  | io (target : String) (fault : IoFault)
  /-- The database has been closed. -/
  | closed
  /-- A snapshot file does not hold a snapshot. -/
  | malformedSnapshot (path : String)
  /-- A snapshot file asks for more memory than there is. -/
  | outOfMemory
  /-- A snapshot file asks for more memory than there could be. -/
  | lengthOverflow
  deriving DecidableEq, Repr

namespace Error

/-- What kind of failure a cause is. -/
inductive Category where
  | invalidArgument
  | notFound
  | io
  | closed
  | snapshot
  | memory
  deriving DecidableEq, Repr

/-- The kind of failure of a cause. -/
def category : Error → Category
  | notFound .. => .notFound
  | io .. => .io
  | closed => .closed
  | malformedSnapshot _ => .snapshot
  | outOfMemory | lengthOverflow => .memory
  | _ => .invalidArgument

/-- The character between single quotes, a line break by its escape. -/
def showDelimiter (c : Char) : String :=
  if c == '\n' then "'\\n'" else if c == '\r' then "'\\r'" else s!"'{c}'"

/-- The part of an `invalid argument` message that names the cause. -/
def detail : Error → String
  | emptyAlternative filter => s!"empty alternative in kind filter '{filter}'"
  | danglingTilde filter => s!"dangling '~' in kind filter '{filter}'"
  | unexpectedCharacter c filter => s!"unexpected character '{c}' in kind filter '{filter}'"
  | duplicateEntity id => "duplicate entity id " ++ id.text
  | danglingReference role id record =>
    s!"{role.name} {id.text} of reference {record} is not a known entity"
  | tokensOfUnknownFile file => "tokens recorded for unknown file " ++ file.text
  | tokenOfUnknownEntity file entity =>
    s!"token in file {file.text} resolves to unknown entity {entity.text}"
  | tokensRecordedTwice file => "tokens recorded twice for file " ++ file.text
  | emptyName => "entity name must not be empty"
  | unknownEntity id => "unknown entity " ++ id.text
  | notAFile longname kind => s!"{longname} ({kind}) is not a file"
  | unknownReport text =>
    s!"unknown report '{text}' (expected one of: " ++
      ", ".intercalate (ReportKind.all.map (·.name)) ++ ")"
  | unusableDelimiter c => "unusable delimiter " ++ showDelimiter c
  | malformedConfig => "config"
  | notFound .. | io .. | closed | malformedSnapshot _ | outOfMemory | lengthOverflow => ""

/-- The wording of an error. -/
def message : Error → String
  | notFound what name => s!"{what} not found: {name}"
  | io target fault => s!"i/o failure on {target}: {fault.message}"
  | closed => "database is closed"
  | malformedSnapshot path => "snapshot " ++ path
  | outOfMemory => "out of memory"
  | lengthOverflow => "capacity overflow"
  | e => "invalid argument: " ++ e.detail

end Error

end CodeGraph
