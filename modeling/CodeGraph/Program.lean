import CodeGraph.Command.Run
import CodeGraph.CommandLine
import CodeGraph.Config.Toml
import CodeGraph.Snapshot.File

/-!
# The program

A run of the program reads the settings and the snapshot that its command line names, and runs the
command. A name that is not found is reported as an answer, not as a failure.

## Main definitions

* `Program.run` — a run over a file tree
* `Program.Ending.exitCode?` — how the run is reported to its caller
-/

namespace CodeGraph

namespace Program

/-- How a run ends. -/
inductive Ending where
  | done
  /-- The command line was refused. -/
  | refused (e : UsageError)
  /-- The run failed, for the reason given. -/
  | failed (reason : String)
  /-- The run stopped at a length that no memory could have. -/
  | stopped
  /-- The run was cut off when it had used up the memory. -/
  | cutOff
  deriving DecidableEq, Repr

/-- What a run has printed, the files after it, and how it ended. -/
structure Outcome where
  printed : Bytes
  files : FileTree
  ending : Ending

/-- A refused command line gives 2, unless it asks for help; a failure gives 1, and a run that had
to stop gives 101. A run that is cut off has no code. -/
def Ending.exitCode? : Ending → Option Nat
  | done => some 0
  | refused .helpRequested => some 0
  | refused _ => some 2
  | failed _ => some 1
  | stopped => some 101
  | cutOff => none

/-- The wording of an error, with its cause once more if it has one. -/
def reason : Error → String
  | .io target fault => (Error.io target fault).message ++ ": " ++ fault.message
  | e => e.message

/-- The ending for what a command failed with. -/
def endingOf : Option ListingFailure → Ending
  | none => .done
  | some (.query e) => .failed (reason e)
  | some (.output fault) => .failed fault.message

/-- The outcome of a command. -/
def finish (outcome : Command.Outcome) : Outcome :=
  match outcome.failure with
  -- that nothing has the name is an answer
  | some (.query (.notFound what name)) =>
    let line := (Error.notFound what name).message ++ "\n"
    ⟨outcome.sink.accepted ++ Bytes.ofString line, outcome.files, .done⟩
  | failure => ⟨outcome.sink.accepted, outcome.files, endingOf failure⟩

/-- The ending for a snapshot that could not be opened. -/
def unopened (path : String) : Error → Ending
  | .outOfMemory => .cutOff
  | .lengthOverflow => .stopped
  | e => .failed s!"opening {path}: {reason e}"

/-- The session over the snapshot of a command line, or how the run ends without one. -/
def openSession (line : CommandLine) (config : Config) (files : FileTree) :
    Except Ending Session := do
  let db ← ((Snapshot.load files line.snapshot).bind (·.toDatabase)).mapError
    (unopened line.snapshot)
  (Session.start db config).mapError fun e => .failed (reason e)

/-- Run what a command line asks for. -/
def execute (line : CommandLine) (files : FileTree) : Outcome :=
  let config := Config.load files line.configPath
  match openSession line config files with
  | .error ending => ⟨[], files, ending⟩
  | .ok session => finish (line.command.run session config files .unlimited)

/-- A run over a file tree, with the words of its command line. -/
def run (words : List String) (files : FileTree) : Outcome :=
  match CommandLine.parse words with
  | .error e => ⟨[], files, .refused e⟩
  | .ok line => execute line files

end Program

end CodeGraph
