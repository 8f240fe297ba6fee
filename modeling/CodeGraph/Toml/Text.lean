/-!
# Texts in TOML

A text stands between double quotes, where a backslash begins an escape, or between single quotes,
where every character stands for itself. Three quotes on either side make it a text of several
lines, from which a line feed right after the opening quotes is dropped.

Line breaks are single line feeds here.

## Main definitions

* `Toml.QuoteStyle` — which quotes a text stands between
* `Toml.readText` — a text behind its opening quote
* `Toml.readKeyPart` — a bare or quoted key
-/

namespace CodeGraph.Toml

/-- What a text stands between. -/
structure QuoteStyle where
  /-- A double quote or a single quote. -/
  quote : Char
  /-- Three quotes on either side. -/
  multiline : Bool
  deriving DecidableEq, Repr

namespace QuoteStyle

/-- Backslashes begin escapes. -/
def escapes (style : QuoteStyle) : Bool :=
  style.quote == '"'

/-- The character can stand in a text as it is. -/
def admits (style : QuoteStyle) (c : Char) : Bool :=
  c == '\t' || ' ' ≤ c && c != '\x7f' || style.multiline && c == '\n'

end QuoteStyle

/-- A space or a tab. -/
def isSpace (c : Char) : Bool :=
  c == ' ' || c == '\t'

/-- A space, a tab or a line feed. -/
def isSpaceOrBreak (c : Char) : Bool :=
  isSpace c || c == '\n'

/-- The value of a hexadecimal digit. -/
def hexDigit? (c : Char) : Option Nat :=
  if '0' ≤ c && c ≤ '9' then some (c.toNat - '0'.toNat)
  else if 'a' ≤ c && c ≤ 'f' then some (c.toNat - 'a'.toNat + 10)
  else if 'A' ≤ c && c ≤ 'F' then some (c.toNat - 'A'.toNat + 10)
  else none

/-- The character whose number has the given hexadecimal digits. -/
def charOfHex? (digits : List Char) : Option Char := do
  let n := (← digits.mapM hexDigit?).foldl (fun n d => 16 * n + d) 0
  if n.isValidChar then some (Char.ofNat n) else none

/-- The character of an escape with this many hexadecimal digits, and what follows it. -/
def readHexEscape (count : Nat) (cs : List Char) : Option (List Char × List Char) :=
  if cs.length < count then none
  else (charOfHex? (cs.take count)).map fun c => ([c], cs.drop count)

/-- What follows a break that a backslash hides: the line must be blank to its end, and blanks at
the front of the next lines are hidden too. -/
def skipHiddenBreak (cs : List Char) : Option (List Char) :=
  match cs.dropWhile isSpace with
  | [] => some []
  | c :: rest => if c == '\n' then some (rest.dropWhile isSpaceOrBreak) else none

/-- What an escape stands for, behind its backslash, and what follows it. -/
def readEscape (multiline : Bool) : List Char → Option (List Char × List Char)
  | [] => none
  | '"' :: cs => some (['"'], cs)
  | '\\' :: cs => some (['\\'], cs)
  | 'b' :: cs => some (['\x08'], cs)
  | 'f' :: cs => some (['\x0c'], cs)
  | 'n' :: cs => some (['\n'], cs)
  | 'r' :: cs => some (['\r'], cs)
  | 't' :: cs => some (['\t'], cs)
  | 'u' :: cs => readHexEscape 4 cs
  | 'U' :: cs => readHexEscape 8 cs
  | c :: cs =>
    if multiline && isSpaceOrBreak c then (skipHiddenBreak (c :: cs)).map ([], ·) else none

/-- What the quotes at a place in a text of several lines stand for, if they do not end it. Of three
to five quotes the last three end the text, which those before them belong to. -/
def readQuotes (quote : Char) (cs : List Char) : List Char × Bool × List Char :=
  let count := (cs.takeWhile (· == quote)).length
  if count < 3 then (List.replicate count quote, false, cs.drop count)
  else (List.replicate (min count 5 - 3) quote, true, cs.drop (min count 5))

/-- The rest of a text, and what follows its closing quotes. The number bounds the pieces of which
the text is made; as many as there are characters always suffice. -/
def readBody (style : QuoteStyle) : Nat → List Char → Option (List Char × List Char)
  | 0, _ | _, [] => none
  | n + 1, c :: cs =>
    if c == style.quote then
      if style.multiline then
        match readQuotes style.quote (c :: cs) with
        | (quotes, true, rest) => some (quotes, rest)
        | (quotes, false, rest) => continueWith quotes (readBody style n rest)
      else some ([], cs)
    else if style.escapes && c == '\\' then
      match readEscape style.multiline cs with
      | some (meant, rest) => continueWith meant (readBody style n rest)
      | none => none
    else if style.admits c then continueWith [c] (readBody style n cs)
    else none
where
  /-- A text with some characters before it. -/
  continueWith (front : List Char) : Option (List Char × List Char) → Option (List Char × List Char)
    | some (body, rest) => some (front ++ body, rest)
    | none => none

/-- A text behind its first quote: its characters, whether it may run over several lines, and what
follows it. -/
def readText (quote : Char) (cs : List Char) : Option (List Char × Bool × List Char) :=
  match cs.takeWhile (· == quote) with
  | [] => (readBody ⟨quote, false⟩ (cs.length + 1) cs).map fun (body, rest) => (body, false, rest)
  | [_] => some ([], false, cs.drop 1)
  | _ =>
    -- a line feed behind the opening quotes is no part of the text
    let inner := cs.drop 2
    let body := if inner.head? == some '\n' then inner.drop 1 else inner
    (readBody ⟨quote, true⟩ (body.length + 1) body).map fun (body, rest) => (body, true, rest)

/-! ### Keys -/

/-- A letter, a digit, a hyphen or an underscore, all ASCII. -/
def isBare (c : Char) : Bool :=
  c.isAlphanum || c == '-' || c == '_'

/-- A bare word, which is not empty, and what follows it. -/
def readBare (cs : List Char) : Option (List Char × List Char) :=
  match cs.span isBare with
  | ([], _) => none
  | (word, rest) => some (word, rest)

/-- A key: a bare word or a text on one line. -/
def readKeyPart : List Char → Option (String × List Char)
  | [] => none
  | c :: cs =>
    if c == '"' || c == '\'' then
      match readText c cs with
      | some (body, false, rest) => some (String.ofList body, rest)
      | _ => none
    else (readBare (c :: cs)).map fun (word, rest) => (String.ofList word, rest)

end CodeGraph.Toml
