/-!
# JSON values

A JSON value as it is written: a number keeps its digits, an object the order of its members and
any repeated keys.

## Main definitions

* `Json` — the values
* `Json.slots?` — the values for the fields of a record
-/

namespace CodeGraph

/-- A JSON value. A text is absent where what is written stands for no sequence of characters, as
half of a surrogate pair does. -/
inductive Json where
  | null
  | bool (b : Bool)
  /-- A number by its text. -/
  | number (digits : String)
  | text (s : Option String)
  | array (items : List Json)
  | object (members : List (Option String × Json))

namespace Json

/-- The one value under a key, absent if the key is missing; a repeated key has no value. -/
def member? (members : List (Option String × Json)) (key : String) : Option (Option Json) :=
  match members.filter (·.1 == some key) with
  | [] => some none
  | [(_, value)] => some (some value)
  | _ => none

/-- The values for the fields of a record, absent where none is given. A record is an object, in
which unknown keys are passed over, or an array of no more values than there are fields, in
order. -/
def slots? (fields : List String) : Json → Option (List (Option Json))
  | array items =>
    if items.length ≤ fields.length then
      some ((List.range fields.length).map fun i => items[i]?)
    else none
  | object members =>
    if members.any (·.1.isNone) then none else fields.mapM (member? members)
  | _ => none

/-- A text. -/
def text? : Json → Option String
  | text s => s
  | _ => none

/-- The elements of an array, each read in the same way. -/
def list? {α : Type} (read : Json → Option α) : Json → Option (List α)
  | array items => items.mapM read
  | _ => none

/-- A whole number of 32 bits without sign, point or exponent. -/
def word? : Json → Option UInt32
  | number digits =>
    if digits.toList.all Char.isDigit then
      let n := digits.toList.foldl (fun n c => 10 * n + (c.toNat - '0'.toNat)) 0
      if n < UInt32.size then some (UInt32.ofNat n) else none
    else none
  | _ => none

end Json

end CodeGraph
