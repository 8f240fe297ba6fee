import CodeGraph.Bytes

/-!
# Binary codecs

A codec writes values as bytes and reads a value from the front of some bytes. Numbers are little
endian; a text or a list is preceded by its length in eight bytes; an optional value is preceded by
a byte that is 1 if it is there and 0 if not; a choice is written as its number in four bytes.

A reader makes room for a whole text before it looks at its bytes. A text that is said to be longer
than any memory is therefore another fault than one that is merely cut off.

## Main definitions

* `Codec` — how values of a type are written and read
* `Codec.Fault` — why no value could be read
* `Codec.word`, `Codec.text`, `Codec.list`, `Codec.option`, `Codec.choice` — the codecs above
* `Codec.pair`, `Codec.map` — codecs made of others
-/

namespace CodeGraph

/-- Why no value could be read from some bytes. -/
inductive Codec.Fault where
  | malformed
  /-- A text is said to be longer than the memory. -/
  | outOfMemory
  /-- A text is said to be longer than any memory could be. -/
  | lengthOverflow
  deriving DecidableEq, Repr

/-- How values of a type are written, and read from the front of some bytes. -/
structure Codec (α : Type) where
  encode : α → Bytes
  decode : Bytes → Except Codec.Fault (α × Bytes)

namespace Codec

variable {α β : Type}

/-- A number in `width` bytes, the lowest first. -/
def littleEndian : Nat → Nat → Bytes
  | 0, _ => []
  | width + 1, n => UInt8.ofNat n :: littleEndian width (n / 256)

/-- The number in the first `width` bytes. -/
def readLittleEndian : Nat → Bytes → Except Fault (Nat × Bytes)
  | 0, bs => .ok (0, bs)
  | _ + 1, [] => .error .malformed
  | width + 1, b :: bs =>
    (readLittleEndian width bs).map fun (n, rest) => (b.toNat + 256 * n, rest)

/-- The first `n` bytes, if there are as many. -/
def takeExactly : Nat → Bytes → Option (Bytes × Bytes)
  | 0, bs => some ([], bs)
  | _ + 1, [] => none
  | n + 1, b :: bs => (takeExactly n bs).map fun (front, rest) => (b :: front, rest)

/-- A length, in eight bytes. -/
def length : Codec Nat where
  encode := littleEndian 8
  decode := readLittleEndian 8

/-- A number of 32 bits, in four bytes. -/
def word : Codec UInt32 where
  encode n := littleEndian 4 n.toNat
  decode bs := (readLittleEndian 4 bs).map fun (n, rest) => (UInt32.ofNat n, rest)

/-- How many bytes the memory holds. -/
def memorySize : Nat :=
  Nat.pow 2 35

/-- How many bytes a text could have at most. -/
def lengthLimit : Nat :=
  Nat.pow 2 63 - 1

/-- The fault of a text of `n` bytes that are not all there. -/
def shortage (n : Nat) : Fault :=
  if lengthLimit < n then .lengthOverflow
  else if memorySize < n then .outOfMemory
  else .malformed

/-- A text in UTF-8 after the number of its bytes. -/
def text : Codec String where
  encode s := length.encode (Bytes.ofString s).length ++ Bytes.ofString s
  decode bs := do
    let (n, rest) ← length.decode bs
    match takeExactly n rest with
    | none => throw (shortage n)
    | some (front, rest) =>
      match Bytes.toString? front with
      | none => throw .malformed
      | some s => return (s, rest)

/-- Two values, one after the other. -/
def pair (a : Codec α) (b : Codec β) : Codec (α × β) where
  encode x := a.encode x.1 ++ b.encode x.2
  decode bs := do
    let (x, rest) ← a.decode bs
    let (y, rest) ← b.decode rest
    return ((x, y), rest)

/-- Values written in the form of others. -/
def map (a : Codec α) (make : α → β) (parts : β → α) : Codec β where
  encode y := a.encode (parts y)
  decode bs := (a.decode bs).map fun (x, rest) => (make x, rest)

/-- `n` values, one after the other. -/
def readMany (a : Codec α) : Nat → Bytes → Except Fault (List α × Bytes)
  | 0, bs => .ok ([], bs)
  | n + 1, bs => do
    let (x, rest) ← a.decode bs
    let (xs, rest) ← readMany a n rest
    return (x :: xs, rest)

/-- The elements of a list after their number. -/
def list (a : Codec α) : Codec (List α) where
  encode xs := length.encode xs.length ++ xs.flatMap a.encode
  decode bs := do
    let (n, rest) ← length.decode bs
    a.readMany n rest

/-- A value that may be absent. -/
def option (a : Codec α) : Codec (Option α) where
  encode
    | none => [0]
    | some x => 1 :: a.encode x
  decode
    | [] => .error .malformed
    | b :: bs =>
      if b = 0 then .ok (none, bs)
      else if b = 1 then (a.decode bs).map fun (x, rest) => (some x, rest)
      else .error .malformed

/-- One of the listed values, by its place in the list. -/
def choice [BEq α] (values : List α) : Codec α where
  encode x := littleEndian 4 (values.idxOf x)
  decode bs := do
    let (n, rest) ← readLittleEndian 4 bs
    match values[n]? with
    | none => throw .malformed
    | some x => return (x, rest)

end Codec

end CodeGraph
