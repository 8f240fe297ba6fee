/-!
# Delimited text

A table is written as one line per record, the fields of a record separated by a delimiter. A field
that holds the delimiter, a double quote or a line break is written between double quotes, and a
double quote inside it is written twice. Reading follows the usual rules for such files: a line feed
ends a record outside quotes, and a quoted field runs to its closing quote.

## Main definitions

* `Text.Delimited.encodeField`, `Text.Delimited.encodeRecord` — a field and a record
* `Text.Delimited.encode` — a table
* `Text.Delimited.decode` — the table that a text holds
-/

namespace CodeGraph.Text.Delimited

/-- The character may not stand in a bare field. -/
def isSpecial (delimiter c : Char) : Bool :=
  c == delimiter || c == '"' || c == '\r' || c == '\n'

/-- A text with every double quote written twice. -/
def doubleQuotes : List Char → List Char
  | [] => []
  | c :: cs => if c == '"' then '"' :: '"' :: doubleQuotes cs else c :: doubleQuotes cs

/-- The written form of a field. -/
def encodeField (delimiter : Char) (field : List Char) : List Char :=
  if field.any (isSpecial delimiter) then '"' :: doubleQuotes field ++ ['"'] else field

/-- The written form of a record, without its line feed. -/
def encodeRecord (delimiter : Char) (fields : List (List Char)) : List Char :=
  [delimiter].intercalate (fields.map (encodeField delimiter))

/-- The written form of a table: each record and its line feed. -/
def encode (delimiter : Char) (records : List (List (List Char))) : List Char :=
  records.flatMap fun r => encodeRecord delimiter r ++ ['\n']

/-- Where a reader stands: before a field, in a bare field, between the quotes of a field, or
behind a double quote that closes the field unless another follows. -/
inductive Place where
  | start
  | bare
  | inside
  | closing
  deriving DecidableEq, Repr

/-- The records of a text from a place in it on, given the characters of the field and the fields
of the record read so far, both last first. -/
def decodeFrom (delimiter : Char) :
    Place → List Char → List (List Char) → List Char → List (List (List Char))
  | .start, _, [], [] => []
  | _, field, record, [] => [(field.reverse :: record).reverse]
  | place, field, record, c :: cs =>
    if place == .inside then
      if c == '"' then decodeFrom delimiter .closing field record cs
      else decodeFrom delimiter .inside (c :: field) record cs
    else if place == .closing && c == '"' then decodeFrom delimiter .inside (c :: field) record cs
    else if place == .start && c == '"' then decodeFrom delimiter .inside field record cs
    else if c == delimiter then decodeFrom delimiter .start [] (field.reverse :: record) cs
    else if c == '\n' then
      (field.reverse :: record).reverse :: decodeFrom delimiter .start [] [] cs
    else decodeFrom delimiter .bare (c :: field) record cs

/-- The table that a text holds. -/
def decode (delimiter : Char) (cs : List Char) : List (List (List Char)) :=
  decodeFrom delimiter .start [] [] cs

end CodeGraph.Text.Delimited
