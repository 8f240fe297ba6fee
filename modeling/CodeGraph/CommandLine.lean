import CodeGraph.Command
import CodeGraph.CommandLine.Usage
import CodeGraph.FilePath

/-!
# Command lines

A command line names a snapshot, perhaps a settings file, and a command with what belongs to it:

* `[-c SETTINGS] SNAPSHOT COMMAND …`

## Main definitions

* `CommandLine.parse` — the command line of some words
* `CommandLine.configPath` — the settings file to be used
-/

namespace CodeGraph

/-- A snapshot, a settings file unless the usual one is meant, and a command. -/
structure CommandLine where
  config : Option String
  snapshot : String
  command : Command
  deriving DecidableEq, Repr

namespace Command

/-- What follows the name of a command. -/
def usage (name : String) : Usage :=
  match name with
  | "methods" => ⟨[], [⟨"class", .text⟩], []⟩
  | "calls" => ⟨[], [⟨"method", .text⟩], []⟩
  | "refs" => ⟨[], [⟨"variable", .text⟩], []⟩
  | "lexer" => ⟨[⟨"limit", .count⟩], [⟨"file", .text⟩], []⟩
  | "export" => ⟨[⟨"output", .path⟩, ⟨"filter", .text⟩], [⟨"report", .text⟩], []⟩
  | _ => ⟨[], [], []⟩

/-- The value of a slot that must be filled. -/
def required (values : SlotValues) (slot : String) : Except UsageError String :=
  match values.lookup slot with
  | some value => .ok value
  | none => .error .argumentMissing

/-- The command with a name, from the values of its slots. -/
def ofValues (name : String) (values : SlotValues) : Except UsageError Command :=
  match name with
  | "summary" => .ok .summary
  | "classes" => .ok .classes
  | "methods" => (required values "class").map .methods
  | "calls" => (required values "method").map .calls
  | "refs" => (required values "variable").map .refs
  | "lexer" => (required values "file").map (.lexer · ((values.lookup "limit").bind count?))
  | "file-deps" => .ok .fileDeps
  | "class-deps" => .ok .classDeps
  | "export" =>
    (required values "report").map
      (.exportReport · (values.lookup "output") (values.lookup "filter"))
  | _ => .error .commandUnknown

/-- The command with a name, from the words after it. -/
def parse (name : String) (words : List String) : Except UsageError Command := do
  let (scan, _) ← (usage name).scan .start words
  let scan ← scan.resolve
  ofValues name scan.values

end Command

namespace CommandLine

/-- What comes before the name of a command, and the names of the commands. -/
def usage : Usage :=
  ⟨[⟨"config", .path⟩], [⟨"snapshot", .path⟩],
    ["summary", "classes", "methods", "calls", "refs", "lexer", "file-deps", "class-deps",
      "export", Usage.helpCommand]⟩

/-- The command that some words give, absent without words. -/
def parseCommand : List String → Except UsageError (Option Command)
  | [] => .ok none
  | name :: words => (Command.parse name words).map some

/-- The command line of some words. A fault in what belongs to the command is found before one in
the last word ahead of its name. -/
def parse (words : List String) : Except UsageError CommandLine := do
  let (scan, rest) ← usage.scan .start words
  -- the last word before the name is still unchecked here
  let command ← parseCommand rest
  let scan ← scan.resolve
  match command with
  | none => throw (if scan.values.isEmpty then .nothingGiven else .commandMissing)
  | some command =>
    let snapshot ← Command.required scan.values "snapshot"
    return { config := scan.values.lookup "config", snapshot, command }

/-- The name of the settings file beside a snapshot. -/
def configName : String :=
  "refscope.toml"

/-- The settings file to be used: the one given, or else the usual one beside the snapshot. -/
def configPath (c : CommandLine) : String :=
  c.config.getD (FilePath.sibling c.snapshot configName)

/-- What can be asked, in a few lines. -/
def help : String :=
  "\n".intercalate [
    "Usage: [-c SETTINGS] SNAPSHOT COMMAND",
    "",
    "  summary                                 name, languages, classes and methods",
    "  classes                                 the classes",
    "  methods CLASS                           the methods of a class",
    "  calls METHOD                            what a method calls and what calls it",
    "  refs VARIABLE                           the references of a variable",
    "  lexer FILE [-l LIMIT]                   the tokens of a file",
    "  file-deps                               dependencies between files",
    "  class-deps                              dependencies between classes",
    "  export REPORT [-o FILE] [-f FILTER]     a report as delimited text"]

end CommandLine

end CodeGraph
