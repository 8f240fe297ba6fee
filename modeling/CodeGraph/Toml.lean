/-!
# TOML values

A TOML value as it is written. A table keeps the order of its entries and any repeated keys.

## Main definitions

* `Toml` — the values
* `Toml.addEntry` — give a value to a dotted key of a table
-/

namespace CodeGraph

/-- A TOML value. -/
inductive Toml where
  | string (s : String)
  | integer (n : Int)
  /-- A number with a fraction or an exponent, an infinity or no number, by its text. -/
  | float (text : String)
  | boolean (b : Bool)
  /-- A date, a time, or both, by its text. -/
  | datetime (text : String)
  | array (items : List Toml)
  /-- A table, which further dotted keys may extend if it is `dotted`. -/
  | table (dotted : Bool) (entries : List (String × Toml))

namespace Toml

/-- The entries with the first value of a key revised, or a first value added. -/
def revise (key : String) (f : Option Toml → Option Toml) :
    List (String × Toml) → Option (List (String × Toml))
  | [] => (f none).map fun v => [(key, v)]
  | (k, v) :: rest =>
    if k == key then (f (some v)).map fun v => (k, v) :: rest
    else (revise key f rest).map ((k, v) :: ·)

/-- The entries with a value added under a dotted key. A plain key is always added; a dotted one
extends only a table that dotted keys have made. -/
def addEntry : List String → Toml → List (String × Toml) → Option (List (String × Toml))
  | [], _, _ => none
  | [key], value, entries => some (entries ++ [(key, value)])
  | key :: keys, value, entries =>
    revise key (fun
      | none => (addEntry keys value []).map (table true)
      | some (table true inner) => (addEntry keys value inner).map (table true)
      | some _ => none) entries

end Toml

end CodeGraph
