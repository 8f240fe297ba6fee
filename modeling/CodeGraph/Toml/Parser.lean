import CodeGraph.Toml.Number

/-!
# Reading TOML

A document is a list of lines: entries, and headers that open a section for the entries after them.

## Main definitions

* `Toml.Section` — a header with the entries under it
* `Toml.readValue` — a value
* `Toml.sections?` — the sections of a document
-/

namespace CodeGraph.Toml

/-- A header with the entries under it. The entries before all headers form a section without
name. -/
structure Section where
  path : List String
  /-- The header adds an element to an array of tables. -/
  element : Bool
  entries : List (String × Toml)

/-! ### Blanks and comments -/

/-- What follows the spaces and tabs at the front. -/
def skipSpace (cs : List Char) : List Char :=
  cs.dropWhile isSpace

/-- The character can stand in a comment. -/
def isCommentChar (c : Char) : Bool :=
  c == '\t' || ' ' ≤ c

/-- What follows a given character. -/
def skipChar (expected : Char) : List Char → Option (List Char)
  | [] => none
  | c :: cs => if c == expected then some cs else none

/-- What follows the end of a line, with a comment before it if there is one. -/
def skipLineEnd (cs : List Char) : Option (List Char) :=
  let rest := if cs.head? == some '#' then (cs.drop 1).dropWhile isCommentChar else cs
  match rest with
  | [] => some []
  | c :: rest => if c == '\n' then some rest else none

/-- What follows any blanks, comments and line ends at the front, and how many there were is bounded
by the number; as many as there are characters always suffice. -/
def skipLines : Nat → List Char → Option (List Char)
  | 0, _ => none
  | n + 1, cs =>
    match skipSpace cs with
    | [] => some []
    | c :: rest =>
      if c == '#' || c == '\n' then (skipLineEnd (c :: rest)).bind (skipLines n)
      else some (c :: rest)

/-- What follows any blanks, comments and line ends at the front. -/
def skipBlankLines (cs : List Char) : Option (List Char) :=
  skipLines (cs.length + 1) cs

/-! ### Keys -/

/-- The further parts of a dotted key, with blanks around the dots, and what follows them. -/
def readKeyRest : Nat → List Char → Option (List String × List Char)
  | 0, _ => none
  | n + 1, cs =>
    match skipSpace cs with
    | '.' :: cs =>
      match readKeyPart (skipSpace cs) with
      | some (part, cs) => (readKeyRest n cs).map fun (parts, cs) => (part :: parts, cs)
      | none => none
    | cs => some ([], cs)

/-- A dotted key and what follows it, from the first character on that is not blank. -/
def readKey (cs : List Char) : Option (List String × List Char) :=
  match readKeyPart cs with
  | some (part, cs) =>
    (readKeyRest (cs.length + 1) cs).map fun (parts, cs) => (part :: parts, cs)
  | none => none

/-- A dotted key with the equals sign behind it, and what follows the blanks after that. -/
def readKeyEquals (cs : List Char) : Option (List String × List Char) :=
  match readKey cs with
  | some (key, cs) => (skipChar '=' cs).map fun cs => (key, skipSpace cs)
  | none => none

/-! ### Values -/

/-- The value that a bare word begins, and what follows it. -/
def readWordValue (word after : List Char) : Option (Toml × List Char) :=
  if word == "true".toList then some (boolean true, after)
  else if word == "false".toList then some (boolean false, after)
  else if word == "inf".toList || word == "nan".toList ||
      word.head?.any fun c => c == '-' || c.isDigit then
    readNumeric word after
  else none

/-- A value that is no array and no table, and what follows it. -/
def readScalar : List Char → Option (Toml × List Char)
  | [] => none
  | c :: cs =>
    if c == '"' || c == '\'' then
      (readText c cs).map fun (body, _, rest) => (string (String.ofList body), rest)
    else if c == '+' then (readBare cs).bind fun (word, after) => readNumber word after
    else (readBare (c :: cs)).bind fun (word, after) => readWordValue word after

mutual

/-- A value and what follows it. The number bounds how many values may be opened or passed on the
way to its last part; as many as there are characters always suffice. -/
def readValue : Nat → List Char → Option (Toml × List Char)
  | 0, _ => none
  | n + 1, cs =>
    match cs with
    | '[' :: cs => (readItems n cs).map fun (items, rest) => (array items, rest)
    | '\x7b' :: cs =>
      match skipSpace cs with
      | '\x7d' :: rest => some (table false [], rest)
      | cs => (readEntries n cs []).map fun (entries, rest) => (table false entries, rest)
    | cs => readScalar cs

/-- The elements of an array up to its end. They may stand on several lines, and a comma may follow
the last. -/
def readItems : Nat → List Char → Option (List Toml × List Char)
  | 0, _ => none
  | n + 1, cs =>
    match skipBlankLines cs with
    | some (']' :: rest) => some ([], rest)
    | some cs =>
      match readValue n cs with
      | none => none
      | some (v, cs) =>
        match skipBlankLines cs with
        | some (']' :: rest) => some ([v], rest)
        | some (',' :: cs) => (readItems n cs).map fun (vs, rest) => (v :: vs, rest)
        | _ => none
    | none => none

/-- The given entries and those of a table on one line up to its end, of which there is one at
least. -/
def readEntries : Nat → List Char → List (String × Toml) →
    Option (List (String × Toml) × List Char)
  | 0, _, _ => none
  | n + 1, cs, entries =>
    match readKeyEquals cs with
    | none => none
    | some (key, cs) =>
      match readValue n cs with
      | none => none
      | some (v, cs) =>
        match addEntry key v entries with
        | none => none
        | some entries =>
          match skipSpace cs with
          | '\x7d' :: rest => some (entries, rest)
          | ',' :: cs => readEntries n (skipSpace cs) entries
          | _ => none

end

/-! ### Lines -/

/-- A header behind its first bracket, as a section without entries, and what follows its line. -/
def readHeader (cs : List Char) : Option (Section × List Char) := do
  let element := cs.head? == some '['
  let (path, cs) ← readKey (skipSpace (if element then cs.drop 1 else cs))
  let cs ← skipChar ']' cs
  let cs ← if element then skipChar ']' cs else some cs
  let rest ← skipLineEnd (skipSpace cs)
  return (⟨path, element, []⟩, rest)

/-- A key with its value, and what follows their line. -/
def readEntry (cs : List Char) : Option ((List String × Toml) × List Char) := do
  let (key, cs) ← readKeyEquals cs
  let (value, cs) ← readValue (cs.length + 1) cs
  let rest ← skipLineEnd (skipSpace cs)
  return ((key, value), rest)

/-- The section with an entry added. -/
def Section.addEntry (s : Section) (key : List String) (value : Toml) : Option Section :=
  (Toml.addEntry key value s.entries).map fun entries => { s with entries }

/-- The rest of a document, where `current` is the section that is being read. The number bounds the
lines. -/
def readSections : Nat → Section → List Char → Option (List Section)
  | 0, _, _ => none
  | n + 1, current, cs =>
    match skipBlankLines cs with
    | none => none
    | some [] => some [current]
    | some ('[' :: cs) =>
      match readHeader cs with
      | some (next, rest) => (readSections n next rest).map (current :: ·)
      | none => none
    | some cs =>
      match readEntry cs with
      | some ((key, value), rest) =>
        match current.addEntry key value with
        | some current => readSections n current rest
        | none => none
      | none => none

/-- The text with a single line feed for every pair of a carriage return and a line feed. -/
def foldLineBreaks : List Char → List Char
  | '\r' :: '\n' :: cs => '\n' :: foldLineBreaks cs
  | c :: cs => c :: foldLineBreaks cs
  | [] => []

/-- The text without a byte order mark at its front. -/
def skipByteOrderMark : List Char → List Char
  | '\ufeff' :: cs => cs
  | cs => cs

/-- The sections of a document, the first of which has no name. -/
def sections? (text : String) : Option (List Section) :=
  let cs := foldLineBreaks (skipByteOrderMark text.toList)
  readSections (cs.length + 1) ⟨[], false, []⟩ cs

end CodeGraph.Toml
