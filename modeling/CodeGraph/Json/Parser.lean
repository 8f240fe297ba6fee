import CodeGraph.Bytes
import CodeGraph.Json

/-!
# Reading JSON

JSON is read from bytes. A text whose bytes are not UTF-8, or whose escapes name half of a
surrogate pair, is well formed but stands for no sequence of characters.

## Main definitions

* `Json.parse?` — the value that some bytes hold, with nothing but blanks around it
-/

namespace CodeGraph.Json

/-- The byte of an ASCII character. -/
def ascii (c : Char) : UInt8 :=
  UInt8.ofNat c.toNat

/-- A space, a tab, a line feed or a carriage return. -/
def isBlankByte (b : UInt8) : Bool :=
  b == ascii ' ' || b == ascii '\t' || b == ascii '\n' || b == ascii '\r'

/-- The bytes from the first on that is not blank. -/
def skipBlank (bs : Bytes) : Bytes :=
  bs.dropWhile isBlankByte

/-- A decimal digit. -/
def isDigitByte (b : UInt8) : Bool :=
  ascii '0' ≤ b && b ≤ ascii '9'

/-- The value of a hexadecimal digit. -/
def hexValue? (b : UInt8) : Option Nat :=
  if isDigitByte b then some (b.toNat - '0'.toNat)
  else if ascii 'a' ≤ b && b ≤ ascii 'f' then some (b.toNat - 'a'.toNat + 10)
  else if ascii 'A' ≤ b && b ≤ ascii 'F' then some (b.toNat - 'A'.toNat + 10)
  else none

/-- The value of four hexadecimal digits. -/
def hexFour? (a b c d : UInt8) : Option Nat := do
  return ((← hexValue? a) * 16 + (← hexValue? b)) * 256 + (← hexValue? c) * 16 + (← hexValue? d)

/-- The unit opens a surrogate pair. -/
def isHighSurrogate (n : Nat) : Bool :=
  0xD800 ≤ n && n < 0xDC00

/-- The unit closes a surrogate pair. -/
def isLowSurrogate (n : Nat) : Bool :=
  0xDC00 ≤ n && n < 0xE000

/-- The bytes of a character given by its number. -/
def charBytes (n : Nat) : Bytes :=
  Bytes.ofString (Char.ofNat n).toString

/-- The byte that a one-letter escape stands for. -/
def shortEscape (b : UInt8) : Option UInt8 :=
  if b == ascii '"' || b == ascii '\\' || b == ascii '/' then some b
  else if b == ascii 'b' then some 0x08
  else if b == ascii 'f' then some 0x0C
  else if b == ascii 'n' then some (ascii '\n')
  else if b == ascii 'r' then some (ascii '\r')
  else if b == ascii 't' then some (ascii '\t')
  else none

/-- The bytes of the character of which the unit `n` is the first half, given the six bytes behind
it, if they are an escape for the second half. -/
def pairBytes? (n : Nat) (s u h₁ h₂ h₃ h₄ : UInt8) : Option Bytes :=
  match hexFour? h₁ h₂ h₃ h₄ with
  | some m =>
    if s == ascii '\\' && u == ascii 'u' && isLowSurrogate m then
      some (charBytes (0x10000 + (n - 0xD800) * 0x400 + (m - 0xDC00)))
    else none
  | none => none

/-- The bytes of the rest of a text with some bytes before them; absent stays absent. -/
def prepend (front : Bytes) : Option Bytes × Bytes → Option Bytes × Bytes
  | (body, rest) => (body.map (front ++ ·), rest)

/-- The rest of a text whose bytes are absent. -/
def withoutBytes : Option Bytes × Bytes → Option Bytes × Bytes
  | (_, rest) => (none, rest)

/-- The bytes of a text behind its opening quote, and what follows its closing quote. The bytes are
absent if an escape names half of a surrogate pair. -/
def textBody : Bytes → Option (Option Bytes × Bytes)
  | [] => none
  | b :: bs =>
    if b == ascii '"' then some (some [], bs)
    else if b == ascii '\\' then
      match bs with
      | [] => none
      | e :: bs =>
        if e == ascii 'u' then
          match bs with
          | h₁ :: h₂ :: h₃ :: h₄ :: bs =>
            match hexFour? h₁ h₂ h₃ h₄ with
            | none => none
            | some n =>
              if isHighSurrogate n then
                match bs with
                | s :: u :: l₁ :: l₂ :: l₃ :: l₄ :: after =>
                  match pairBytes? n s u l₁ l₂ l₃ l₄ with
                  | some front => (textBody after).map (prepend front)
                  -- the half stands alone, and what follows it is read on its own
                  | none =>
                    (textBody (s :: u :: l₁ :: l₂ :: l₃ :: l₄ :: after)).map withoutBytes
                | bs => (textBody bs).map withoutBytes
              else if isLowSurrogate n then (textBody bs).map withoutBytes
              else (textBody bs).map (prepend (charBytes n))
          | _ => none
        else
          match shortEscape e with
          | some c => (textBody bs).map (prepend [c])
          | none => none
    else if b < 0x20 then none
    else (textBody bs).map (prepend [b])
  termination_by bs => bs.length

/-- The text behind an opening quote, and what follows it. -/
def readText (bs : Bytes) : Option (Option String × Bytes) :=
  (textBody bs).map fun (body, rest) => (body.bind Bytes.toString?, rest)

/-- The digits at the front, of which there must be one, and what follows them. -/
def readDigits (bs : Bytes) : Option (Bytes × Bytes) :=
  match bs.span isDigitByte with
  | ([], _) => none
  | (digits, rest) => some (digits, rest)

/-- The whole part of a number: digits without a needless zero in front. -/
def readWhole : Bytes → Option (Bytes × Bytes)
  | [] => none
  | b :: bs => if b == ascii '0' then some ([b], bs) else readDigits (b :: bs)

/-- A sign at the front, if there is one of those given. -/
def readSign (signs : List UInt8) : Bytes → Bytes × Bytes
  | [] => ([], [])
  | b :: bs => if signs.contains b then ([b], bs) else ([], b :: bs)

/-- The fraction of a number, if it has one. -/
def readFraction : Bytes → Option (Bytes × Bytes)
  | [] => some ([], [])
  | b :: bs =>
    if b == ascii '.' then (readDigits bs).map fun (digits, rest) => (b :: digits, rest)
    else some ([], b :: bs)

/-- The exponent of a number, if it has one. -/
def readExponent : Bytes → Option (Bytes × Bytes)
  | [] => some ([], [])
  | b :: bs =>
    if b == ascii 'e' || b == ascii 'E' then
      let (sign, rest) := readSign [ascii '+', ascii '-'] bs
      (readDigits rest).map fun (digits, rest) => (b :: sign ++ digits, rest)
    else some ([], b :: bs)

/-- A number by its text, and what follows it. -/
def readNumber (bs : Bytes) : Option (Json × Bytes) := do
  let (sign, rest) := readSign [ascii '-'] bs
  let (whole, rest) ← readWhole rest
  let (fraction, rest) ← readFraction rest
  let (exponent, rest) ← readExponent rest
  let digits ← Bytes.toString? (sign ++ whole ++ fraction ++ exponent)
  return (number digits, rest)

/-- A given word at the front, for a value. -/
def readWord (word : String) (value : Json) (bs : Bytes) : Option (Json × Bytes) :=
  let expected := Bytes.ofString word
  if bs.take expected.length == expected then some (value, bs.drop expected.length) else none

/-- A byte behind blanks, and what follows it. -/
def nextByte (bs : Bytes) : Option (UInt8 × Bytes) :=
  match skipBlank bs with
  | [] => none
  | b :: rest => some (b, rest)

mutual

/-- A value at the front, and what follows it. The number bounds how many values may be opened or
passed on the way to its last part; as many as there are bytes always suffice. -/
def readValue : Nat → Bytes → Option (Json × Bytes)
  | 0, _ => none
  | n + 1, bs =>
    match nextByte bs with
    | none => none
    | some (b, rest) =>
      if b == ascii '"' then (readText rest).map fun (s, rest) => (text s, rest)
      else if b == ascii '[' then
        match nextByte rest with
        | none => none
        | some (c, after) =>
          if c == ascii ']' then some (array [], after)
          else (readItems n rest).map fun (vs, rest) => (array vs, rest)
      else if b == ascii '\x7b' then
        match nextByte rest with
        | none => none
        | some (c, after) =>
          if c == ascii '\x7d' then some (object [], after)
          else (readMembers n rest).map fun (ms, rest) => (object ms, rest)
      else if b == ascii 'n' then readWord "null" null (b :: rest)
      else if b == ascii 't' then readWord "true" (bool true) (b :: rest)
      else if b == ascii 'f' then readWord "false" (bool false) (b :: rest)
      else readNumber (b :: rest)

/-- The elements of an array up to its end, of which there is one at least. -/
def readItems : Nat → Bytes → Option (List Json × Bytes)
  | 0, _ => none
  | n + 1, bs =>
    match readValue n bs with
    | none => none
    | some (v, rest) =>
      match nextByte rest with
      | none => none
      | some (b, rest) =>
        if b == ascii ']' then some ([v], rest)
        else if b == ascii ',' then (readItems n rest).map fun (vs, rest) => (v :: vs, rest)
        else none

/-- The members of an object up to its end, of which there is one at least. -/
def readMembers : Nat → Bytes → Option (List (Option String × Json) × Bytes)
  | 0, _ => none
  | n + 1, bs =>
    match readMember n bs with
    | none => none
    | some (m, rest) =>
      match nextByte rest with
      | none => none
      | some (b, rest) =>
        if b == ascii '\x7d' then some ([m], rest)
        else if b == ascii ',' then (readMembers n rest).map fun (ms, rest) => (m :: ms, rest)
        else none

/-- A key, a colon and a value. -/
def readMember : Nat → Bytes → Option ((Option String × Json) × Bytes)
  | 0, _ => none
  | n + 1, bs =>
    match nextByte bs with
    | none => none
    | some (b, rest) =>
      if b == ascii '"' then
        match readText rest with
        | none => none
        | some (key, rest) =>
          match nextByte rest with
          | none => none
          | some (c, rest) =>
            if c == ascii ':' then (readValue n rest).map fun (v, rest) => ((key, v), rest)
            else none
      else none

end

/-- The value that some bytes hold, with nothing but blanks around it. -/
def parse? (bs : Bytes) : Option Json :=
  match readValue (bs.length + 1) bs with
  | some (v, rest) => if (skipBlank rest).isEmpty then some v else none
  | none => none

end CodeGraph.Json
