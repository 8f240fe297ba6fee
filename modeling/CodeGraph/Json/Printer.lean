import CodeGraph.Bytes
import CodeGraph.Json

/-!
# Printing JSON

A value is printed with one element or member to a line, indented by two spaces for each level, and
without a line feed at its end. Empty arrays and objects stay on one line. In a text only double
quotes, backslashes and control characters are escaped.

## Main definitions

* `Json.print` — the bytes of a value
-/

namespace CodeGraph.Json

/-- The control characters with an escape of one letter. -/
def shortEscape? (c : Char) : Option Char :=
  if c == '"' then some '"'
  else if c == '\\' then some '\\'
  else if c == '\x08' then some 'b'
  else if c == '\x0c' then some 'f'
  else if c == '\n' then some 'n'
  else if c == '\r' then some 'r'
  else if c == '\t' then some 't'
  else none

/-- The form of a character inside a text. -/
def printChar (c : Char) : List Char :=
  match shortEscape? c with
  | some letter => ['\\', letter]
  | none =>
    if c.toNat < 0x20 then
      ['\\', 'u', '0', '0', Nat.digitChar (c.toNat / 16), Nat.digitChar (c.toNat % 16)]
    else [c]

/-- The form of a text. -/
def printText (s : String) : Bytes :=
  Bytes.ofString (String.ofList ('"' :: s.toList.flatMap printChar ++ ['"']))

/-- A line feed and the indentation of a level. -/
def newLine (level : Nat) : Bytes :=
  Bytes.ofString "\n" ++ List.replicate (2 * level) 0x20

mutual

/-- The form of a value whose lines are indented to a level. -/
def printAt (level : Nat) : Json → Bytes
  | null => Bytes.ofString "null"
  | bool b => Bytes.ofString (if b then "true" else "false")
  | number digits => Bytes.ofString digits
  | text s => printText (s.getD "")
  | array [] => Bytes.ofString "[]"
  | array (v :: vs) =>
    Bytes.ofString "[" ++ newLine (level + 1) ++ printAt (level + 1) v ++ printItems level vs
  | object [] => Bytes.ofString "\x7b\x7d"
  | object (m :: ms) =>
    Bytes.ofString "\x7b" ++ newLine (level + 1) ++ printMember level m ++ printMembers level ms

/-- The form of a member. -/
def printMember (level : Nat) : Option String × Json → Bytes
  | (key, v) => printText (key.getD "") ++ Bytes.ofString ": " ++ printAt (level + 1) v

/-- The form of the further elements of an array, to its end. -/
def printItems (level : Nat) : List Json → Bytes
  | [] => newLine level ++ Bytes.ofString "]"
  | v :: vs =>
    Bytes.ofString "," ++ newLine (level + 1) ++ printAt (level + 1) v ++ printItems level vs

/-- The form of the further members of an object, to its end. -/
def printMembers (level : Nat) : List (Option String × Json) → Bytes
  | [] => newLine level ++ Bytes.ofString "\x7d"
  | m :: ms =>
    Bytes.ofString "," ++ newLine (level + 1) ++ printMember level m ++ printMembers level ms

end

/-- The form of a value. -/
def print (v : Json) : Bytes :=
  printAt 0 v

end CodeGraph.Json
