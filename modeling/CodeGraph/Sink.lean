import CodeGraph.Bytes
import CodeGraph.Error

/-!
# Sinks

A sink accepts bytes, up to a capacity if it has one. A write that does not fit is accepted as far
as it fits, and fails.

## Main definitions

* `Sink.write` — offer bytes to a sink
* `Sink.writeLines` — offer lines one by one, up to the first failure
* `Sink.flush` — force out what has been accepted
-/

namespace CodeGraph

/-- A receiver of bytes. -/
structure Sink where
  accepted : Bytes
  /-- How many bytes the sink accepts in all, if there is a limit. -/
  capacity : Option Nat
  /-- Whether what has been accepted can be forced out. -/
  flushable : Bool
  deriving DecidableEq, Repr

namespace Sink

/-- A sink that never fails. -/
def unlimited : Sink :=
  ⟨[], none, true⟩

/-- How many of `n` further bytes the sink accepts. -/
def room (s : Sink) (n : Nat) : Nat :=
  match s.capacity with
  | none => n
  | some c => min n (c - s.accepted.length)

/-- The sink after it has been offered bytes, with the fault if they do not all fit. -/
def write (s : Sink) (bs : Bytes) : Sink × Option IoFault :=
  let n := s.room bs.length
  ({ s with accepted := s.accepted ++ bs.take n },
    if n < bs.length then some .sinkFull else none)

/-- The sink after it has been offered lines, each with its line feed, up to the first fault. -/
def writeLines (s : Sink) : List String → Sink × Option IoFault
  | [] => (s, none)
  | line :: lines =>
    match s.write (Bytes.ofString (line ++ "\n")) with
    | (s, some fault) => (s, some fault)
    | (s, none) => writeLines s lines

/-- Force out what has been accepted. -/
def flush (s : Sink) : Option IoFault :=
  if s.flushable then none else some .flushFailed

end Sink

end CodeGraph
