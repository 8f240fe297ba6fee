import CodeGraph.Toml
import CodeGraph.Toml.Text

/-!
# Numbers and dates in TOML

Both begin with a bare word, and what the word holds decides which of them it begins. Underscores
may stand between the digits of a number. The parts of a date are not checked.

## Main definitions

* `Toml.integer?` — the value of an integer
* `Toml.readNumber` — an integer or a float that begins with a given word
* `Toml.readDatetime` — a date or a time that begins with a given word
* `Toml.readNumeric` — any of them
-/

namespace CodeGraph.Toml

/-! ### Digits -/

/-- Digits and the underscores between them at the front of a word, and the rest of the word. There
must be a digit at either end. -/
def readDigits (radix : Nat) (cs : List Char) : Option (List Char × List Char) :=
  let isDigit := fun c => (hexDigit? c).any (· < radix)
  let run := cs.takeWhile fun c => isDigit c || c == '_'
  if (run.splitOnP (· == '_')).any (·.isEmpty) then none
  else some (run.filter (· != '_'), cs.drop run.length)

/-- The digits of a whole decimal number, in which a zero in front stands alone. -/
def readWhole (cs : List Char) : Option (List Char × List Char) :=
  match readDigits 10 cs with
  | some (digits, rest) =>
    if cs.head? == some '0' && 1 < digits.length then none else some (digits, rest)
  | none => none

/-- Whether a word begins with a minus sign, and the word without it. -/
def readMinus : List Char → Bool × List Char
  | '-' :: cs => (true, cs)
  | cs => (false, cs)

/-- The value of digits. -/
def digitsValue (radix : Nat) (digits : List Char) : Nat :=
  digits.foldl (fun n c => radix * n + (hexDigit? c).getD 0) 0

/-! ### Integers -/

/-- An integer has 64 bits. -/
def inRange (n : Int) : Bool :=
  Int64.minValue.toInt ≤ n && n ≤ Int64.maxValue.toInt

/-- The integer in range, if the word ends behind its digits. -/
def integerOf (radix : Nat) (negative : Bool) : Option (List Char × List Char) → Option Toml
  | some (digits, []) =>
    let size : Int := digitsValue radix digits
    let n := if negative then -size else size
    if inRange n then some (integer n) else none
  | _ => none

/-- The integer of a word: decimal with an optional sign, or in another base after its mark. -/
def integer? : List Char → Option Toml
  | '0' :: 'x' :: cs => integerOf 16 false (readDigits 16 cs)
  | '0' :: 'o' :: cs => integerOf 8 false (readDigits 8 cs)
  | '0' :: 'b' :: cs => integerOf 2 false (readDigits 2 cs)
  | cs =>
    let (negative, rest) := readMinus cs
    integerOf 10 negative (readWhole rest)

/-! ### Floats -/

/-- The least number that rounds to no finite float of 64 bits. -/
def floatBound : Nat :=
  Nat.pow 2 1024 - Nat.pow 2 970

/-- The digits, times a power of ten, stay below the bound of floats. -/
def isFinite (digits : List Char) (exponent : Int) : Bool :=
  let significant := digits.dropWhile (· == '0')
  let magnitude := significant.length + exponent
  -- the bound has 309 digits, so only numbers of as many digits need a comparison
  if significant.isEmpty || magnitude < 309 then true
  else if 309 < magnitude then false
  else
    digitsValue 10 significant * Nat.pow 10 exponent.toNat <
      floatBound * Nat.pow 10 (-exponent).toNat

/-- The exponent of a float: whether it is negative, and its digits. -/
abbrev Exponent : Type :=
  Bool × List Char

/-- The value of an exponent, which is zero if there is none. -/
def exponentValue : Option Exponent → Int
  | none => 0
  | some (negative, digits) =>
    let size : Int := digitsValue 10 digits
    if negative then -size else size

/-- A minus sign where one is wanted. -/
def minusText (negative : Bool) : List Char :=
  if negative then ['-'] else []

/-- The text of a float, without underscores. -/
def floatText (negative : Bool) (whole fraction : List Char) (exponent : Option Exponent) :
    List Char :=
  minusText negative ++ whole ++ (if fraction.isEmpty then [] else '.' :: fraction) ++
    match exponent with
    | none => []
    | some (negative, digits) => 'e' :: minusText negative ++ digits

/-- The float with the given parts, if it is finite. -/
def floatOf (negative : Bool) (whole fraction : List Char) (exponent : Option Exponent) :
    Option Toml :=
  if isFinite (whole ++ fraction) (exponentValue exponent - fraction.length) then
    some (float (String.ofList (floatText negative whole fraction exponent)))
  else none

/-- The exponent of a float and what follows it. `word` is what follows its mark in one word, and
`after` what follows that word; a plus sign stands between two words. -/
def readExponent (word after : List Char) : Option (Exponent × List Char) := do
  if word.isEmpty then
    match after with
    | '+' :: after =>
      let (word, after) ← readBare after
      let (digits, rest) ← readDigits 10 word
      if rest.isEmpty then some ((false, digits), after) else none
    | _ => none
  else
    let (negative, word) := readMinus word
    let (digits, rest) ← readDigits 10 word
    if rest.isEmpty then some ((negative, digits), after) else none

/-- A float whose digits have been read, with its exponent if there is one. `word` is the rest of
the word that holds the last digits. -/
def readFloatEnd (negative : Bool) (whole fraction word after : List Char) :
    Option (Toml × List Char) :=
  match word with
  | [] => (floatOf negative whole fraction none).map (·, after)
  | c :: word =>
    if c == 'e' || c == 'E' then do
      let (exponent, after) ← readExponent word after
      (floatOf negative whole fraction (some exponent)).map (·, after)
    else none

/-- The float whose first word is given, where that word holds an exponent. -/
def readPlainFloat (word after : List Char) : Option (Toml × List Char) := do
  let (negative, word) := readMinus word
  let (whole, word) ← readWhole word
  readFloatEnd negative whole [] word after

/-- The float whose first word is given, where a fraction follows behind the point. -/
def readPointFloat (word after : List Char) : Option (Toml × List Char) := do
  let (negative, word) := readMinus word
  let (whole, word) ← readWhole word
  if !word.isEmpty then none
  else
    let (next, after) ← readBare after
    let (fraction, next) ← readDigits 10 next
    readFloatEnd negative whole fraction next after

/-- The words for an infinity and for no number. -/
def specialFloats : List (List Char) :=
  ["inf".toList, "-inf".toList, "nan".toList, "-nan".toList]

/-- The number whose first word is given, and what follows it. -/
def readNumber (word after : List Char) : Option (Toml × List Char) :=
  let based := word.take 2 == ['0', 'x'] || word.take 2 == ['0', 'o'] || word.take 2 == ['0', 'b']
  if based then (integer? word).map (·, after)
  else if word.any fun c => c == 'e' || c == 'E' then readPlainFloat word after
  else match after with
    | '.' :: after => readPointFloat word after
    | after =>
      if specialFloats.contains word then some (float (String.ofList word), after)
      else (integer? word).map (·, after)

/-! ### Dates and times -/

/-- What follows a mark and the bare word behind it. -/
def skipPart (mark : Char) : List Char → Option (List Char)
  | [] => none
  | c :: cs => if c == mark then (readBare cs).map (·.2) else none

/-- What follows a mark and the bare word behind it, or everything if the mark is not there. -/
def skipOptionalPart (mark : Char) (cs : List Char) : Option (List Char) :=
  if cs.head? == some mark then skipPart mark cs else some cs

/-- What follows the rest of a time of day, behind its hour: minutes, seconds, and perhaps a
fraction and a distance from universal time. -/
def skipClock (cs : List Char) : Option (List Char) := do
  let cs ← skipPart ':' cs
  let cs ← skipPart ':' cs
  let cs ← skipOptionalPart '.' cs
  let cs ← skipOptionalPart '+' cs
  skipOptionalPart ':' cs

/-- What follows the hour that may stand behind a date and a single space. -/
def skipSpacedHour : List Char → List Char
  | ' ' :: cs => match readBare cs with
    | some (_, rest) => rest
    | none => ' ' :: cs
  | cs => cs

/-- The date whose first word is given, with a time of day if one follows. -/
def readDatetime (word after : List Char) : Option (Toml × List Char) := do
  let start := skipSpacedHour after
  let rest ← if start.head? == some ':' then skipClock start else some start
  let taken := after.take (after.length - rest.length)
  return (datetime (String.ofList (word ++ taken)), rest)

/-- The word begins a date: it holds a `T`, or a hyphen that is no sign. -/
def beginsDate (word : List Char) : Bool :=
  word.any (fun c => c == 'T' || c == 't') ||
    (word.drop 1).contains '-' &&
      !((word.zip (word.drop 1)).any fun p => (p.1 == 'e' || p.1 == 'E') && p.2 == '-')

/-- The number, date or time whose first word is given, and what follows it. -/
def readNumeric (word after : List Char) : Option (Toml × List Char) :=
  if beginsDate word then readDatetime word after
  -- a colon makes the word an hour
  else if after.head? == some ':' then do
    let rest ← skipClock after
    let taken := after.take (after.length - rest.length)
    return (datetime (String.ofList (word ++ taken)), rest)
  else readNumber word after

end CodeGraph.Toml
