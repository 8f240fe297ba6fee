import CodeGraph.Text.Similarity

/-!
# Usage

What a command line accepts: options with a value, arguments, and in the end perhaps the name of a
command. Arguments are given to slots, each of which may be filled once.

## Main definitions

* `UsageError` — why a command line is refused
* `Slot` — a place for one value
* `Usage` — the options, arguments and commands that are accepted
* `Usage.scan` — the values that a command line gives
-/

namespace CodeGraph

/-- Why a command line is refused. A request for help counts as one. -/
inductive UsageError where
  | helpRequested
  /-- Nothing at all is given. -/
  | nothingGiven
  | commandMissing
  | argumentMissing
  | argumentUnknown
  | commandUnknown
  /-- An option stands without a value, or a path is empty. -/
  | valueMissing
  /-- A value is no number. -/
  | valueMalformed
  /-- A value is attached to an option that takes none. -/
  | valueUnexpected
  | optionRepeated
  deriving DecidableEq, Repr

/-- The refusal in words. -/
def UsageError.message : UsageError → String
  | helpRequested | nothingGiven => ""
  | commandMissing => "a command is missing"
  | argumentMissing => "an argument is missing"
  | argumentUnknown => "an argument is not expected"
  | commandUnknown => "there is no such command"
  | valueMissing => "a value is missing"
  | valueMalformed => "a value is no number"
  | valueUnexpected => "an option takes no value"
  | optionRepeated => "an option is given twice"

/-- What a slot takes. -/
inductive SlotKind where
  | text
  /-- The path of a file, which is not empty. -/
  | path
  /-- A number of 64 bits. -/
  | count
  deriving DecidableEq, Repr

/-- A place for one value. -/
structure Slot where
  name : String
  kind : SlotKind
  deriving DecidableEq, Repr

/-- The options, arguments and commands that are accepted. -/
structure Usage where
  /-- The options. The first letter of its name is the short form of an option. -/
  options : List Slot
  arguments : List Slot
  commands : List String

/-! ### Values -/

/-- The number of some decimal digits, with an optional plus sign before them. -/
def count? (text : String) : Option Nat :=
  let digits := match text.toList with
    | '+' :: digits => digits
    | digits => digits
  if !digits.isEmpty && digits.all Char.isDigit then
    let n := digits.foldl (fun n c => 10 * n + (c.toNat - '0'.toNat)) 0
    if n < UInt64.size then some n else none
  else none

/-- The slot takes the value. -/
def Slot.check (slot : Slot) (value : String) : Except UsageError Unit :=
  match slot.kind with
  | .text => .ok ()
  | .path => if value.isEmpty then .error .valueMissing else .ok ()
  | .count => if (count? value).isNone then .error .valueMalformed else .ok ()

/-- The values of slots by name. -/
abbrev SlotValues : Type :=
  List (String × String)

/-- A command line of which some words have been read. -/
structure Scan where
  /-- The values that have been checked. -/
  values : SlotValues
  /-- The slot met last, with its value unless that is still to come; it is not checked yet. -/
  pending : Option (Slot × Option String)
  /-- How many arguments have been read. -/
  taken : Nat
  /-- All further words are arguments. -/
  plain : Bool

namespace Scan

/-- No word has been read. -/
def start : Scan :=
  ⟨[], none, 0, false⟩

/-- The next word is the value of an option, unless it is an option itself. -/
def expectsValue (s : Scan) : Bool :=
  match s.pending with
  | some (_, none) => true
  | _ => false

/-- The value of a slot is checked and kept. -/
def settle (s : Scan) (slot : Slot) : Option String → Except UsageError Scan
  | none => .error .valueMissing
  | some value => do
    if s.values.any (·.1 == slot.name) then throw .optionRepeated
    slot.check value
    return { s with values := s.values ++ [(slot.name, value)], pending := none }

/-- What is pending is checked. -/
def resolve (s : Scan) : Except UsageError Scan :=
  match s.pending with
  | none => .ok s
  | some (slot, value) => s.settle slot value

/-- What was pending is checked, and a slot with the value that it may have becomes pending. -/
def await (s : Scan) (slot : Slot) (value : Option String) : Except UsageError Scan := do
  let s ← s.resolve
  return { s with pending := some (slot, value) }

end Scan

/-! ### Options -/

/-- An option as it is written, with the value attached to it. -/
inductive Flag where
  | long (name : String) (value : Option String)
  | short (letter : Char) (value : Option String)
  deriving DecidableEq, Repr

namespace Flag

/-- The option that a word is. A value is attached to a long one behind an equals sign, and to a
short one with or without it. -/
def ofWord? (word : String) : Option Flag :=
  match word.toList with
  | '-' :: '-' :: rest =>
    let value := match rest.dropWhile (· != '=') with
      | [] => none
      | _ :: value => some (String.ofList value)
    some (long (String.ofList (rest.takeWhile (· != '='))) value)
  | '-' :: letter :: rest =>
    let value := match rest with
      | [] => none
      | '=' :: value => some (String.ofList value)
      | value => some (String.ofList value)
    some (short letter value)
  | _ => none

/-- The value attached to the option. -/
def value : Flag → Option String
  | long _ value => value
  | short _ value => value

/-- The option asks for help. -/
def isHelp : Flag → Bool
  | long name _ => name == "help"
  | short letter _ => letter == 'h'

/-- The option is the one of a slot. -/
def fits (slot : Slot) : Flag → Bool
  | long name _ => slot.name == name
  | short letter _ => slot.name.toList.head? == some letter

/-- A value is attached to a long option. -/
def isLongWithValue : Flag → Bool
  | long _ (some _) => true
  | _ => false

end Flag

namespace Usage

/-- The word is so similar to the name that it is taken for a slip. -/
def isSlip (word name : String) : Bool :=
  Text.similarity word.toList name.toList > 0.7

/-- Why a word for which there is no slot is refused. -/
def surplus (u : Usage) (plain : Bool) (word : String) : UsageError :=
  if plain && u.commands.contains word then .argumentUnknown
  else if u.commands.any (isSlip word) then .commandUnknown
  else .argumentUnknown

/-- Take a word for an argument. -/
def takeArgument (u : Usage) (s : Scan) (word : String) : Except UsageError Scan :=
  match u.arguments[s.taken]? with
  | none => .error (u.surplus s.plain word)
  | some slot => do
    let s ← s.await slot (some word)
    return { s with taken := s.taken + 1 }

/-- Take an option. A value attached to it is checked at once. -/
def takeFlag (u : Usage) (s : Scan) (flag : Flag) : Except UsageError Scan :=
  if flag.isHelp then
    if flag.isLongWithValue then .error .valueUnexpected
    else s.resolve.bind fun _ => .error .helpRequested
  else match u.options.find? flag.fits with
    | none => .error .argumentUnknown
    | some slot =>
      match flag.value with
      | none => s.await slot none
      | some value => do
        let s ← s.resolve
        s.settle slot (some value)

/-- The name of the command that asks for help. -/
def helpCommand : String :=
  "help"

/-- What a request for help on commands comes to. At most one command can be named. -/
def helpOn (u : Usage) : List String → UsageError
  | [] => .helpRequested
  | [name] => if u.commands.contains name then .helpRequested else .commandUnknown
  | _ => .commandUnknown

/-- What the words up to the name of a command give, and the words from there on. -/
def scan (u : Usage) (s : Scan) : List String → Except UsageError (Scan × List String)
  | [] => .ok (s, [])
  | word :: words =>
    -- behind `--` even a word with a hyphen or the name of a command is an argument
    if s.plain then do scan u (← u.takeArgument s word) words
    else if !s.expectsValue && u.commands.contains word then
      if word == helpCommand then .error (u.helpOn words) else .ok (s, word :: words)
    else if word == "--" then scan u { s with plain := true } words
    else match Flag.ofWord? word with
      | some flag => do scan u (← u.takeFlag s flag) words
      | none =>
        -- the word is no option, so it is the value that an option before it waits for
        match s.pending with
        | some (slot, none) => scan u { s with pending := some (slot, some word) } words
        | _ => do scan u (← u.takeArgument s word) words

end Usage

end CodeGraph
