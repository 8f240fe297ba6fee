import CodeGraph.Program

/-!
# The command line program

The program looks at the files that its command line names, runs over them, and writes back what the
run has printed and the file that it has exported.
-/

namespace CodeGraph.Program

/-- The paths that lead to a path, from the first component on, and the path itself. -/
def approaches (path : String) : List String :=
  let segments := FilePath.segments path
  ((List.range segments.length).map fun i =>
    String.ofList (['/'].intercalate (segments.take (i + 1)))).filter (! ·.isEmpty)

/-- The file tree with what stands at a path, unless the tree holds it already. What is there but
cannot be read as a file is a directory. -/
def observeOne (files : FileTree) (path : String) : IO FileTree := do
  if (files.node path).isOk then return files
  match ← (IO.FS.readBinFile path).toBaseIO with
  | .ok content => return (files.replace path content.toList).toOption.getD files
  | .error (.inappropriateType ..) => return (files.makeDirectory path).toOption.getD files
  | .error _ => return files

/-- The file tree with what stands at a path and at the directories that lead to it. -/
def observe (files : FileTree) (path : String) : IO FileTree :=
  (approaches path).foldlM observeOne files

/-- The file that a command writes. -/
def outputPath? : Command → Option String
  | .exportReport _ output _ => output
  | _ => none

/-- The paths that a command line names. -/
def namedPaths (line : CommandLine) : List String :=
  [line.configPath, line.snapshot] ++ (outputPath? line.command).toList

/-- Write a file as it is after the run. -/
def writeBack (files : FileTree) (path : String) : IO Unit :=
  match files.node path with
  | .ok (.file content) => IO.FS.writeBinFile path content.toByteArray
  | _ => return ()

/-- Print how a run has ended. -/
def report : Ending → IO Unit
  | .done => return ()
  | .refused .helpRequested => IO.println CommandLine.help
  | .refused .nothingGiven => IO.eprintln CommandLine.help
  | .refused e => IO.eprintln ("error: " ++ e.message)
  | .failed reason => IO.eprintln ("Error: " ++ reason)
  | .stopped => IO.eprintln Error.lengthOverflow.message
  | .cutOff => IO.eprintln Error.outOfMemory.message

/-- The code for a run that is cut off, as shells count it. -/
def cutOffCode : Nat :=
  134

/-- Carry out a run: print what it has printed and write the file that it has exported. -/
def carryOut (words : List String) (files : FileTree) (output : Option String) : IO UInt32 := do
  let outcome := run words files
  match outcome.ending, output with
  | .done, some path => writeBack outcome.files path
  | _, _ => pure ()
  (← IO.getStdout).write outcome.printed.toByteArray
  report outcome.ending
  return UInt32.ofNat (outcome.ending.exitCode?.getD cutOffCode)

end CodeGraph.Program

/-- Run the program with the words of its command line. -/
def main (words : List String) : IO UInt32 := do
  match CodeGraph.CommandLine.parse words with
  | .error _ => CodeGraph.Program.carryOut words .empty none
  | .ok line =>
    let files ← (CodeGraph.Program.namedPaths line).foldlM CodeGraph.Program.observe .empty
    CodeGraph.Program.carryOut words files (CodeGraph.Program.outputPath? line.command)
