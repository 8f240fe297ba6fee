import CodeGraph.Sink

/-!
# What sinks accept

Bytes that are offered in parts are accepted as if they were offered at once, so that what is
offered line by line is accepted like the bytes of all lines. A sink accepts the front of these
bytes, and fails unless this is all of them.

## Main definitions

* `Bytes.ofLines` — the bytes of lines, each with its line feed
* `Sink.NeverFails` — the sink takes all bytes and can be flushed
* `Sink.limited` — a sink that accepts a number of bytes and then fails

## Main results

* `Sink.write_append` — bytes offered in two parts
* `Sink.writeLines_eq_write` — lines offered one by one
* `Sink.write_limited_of_lt`, `Sink.write_limited_of_le` — what a sink of limited capacity accepts
-/

namespace CodeGraph

/-- The bytes of lines, each with its line feed. -/
def Bytes.ofLines (texts : List String) : Bytes :=
  texts.flatMap fun text => Bytes.ofString (text ++ "\n")

theorem Bytes.ofLines_cons (text : String) (texts : List String) :
    ofLines (text :: texts) = ofString (text ++ "\n") ++ ofLines texts :=
  List.flatMap_cons

namespace Sink

variable {sink : Sink} {bs : Bytes}

theorem room_le (sink : Sink) (n : Nat) : sink.room n ≤ n := by
  rw [room]
  split
  · exact Nat.le_refl n
  · exact Nat.min_le_left _ _

/-- Bytes for which there is room are accepted. -/
theorem write_of_fits (h : bs.length ≤ sink.room bs.length) :
    sink.write bs = ({ sink with accepted := sink.accepted ++ bs }, none) := by
  have hroom : sink.room bs.length = bs.length := Nat.le_antisymm (sink.room_le _) h
  rw [write, hroom, List.take_length, if_neg (Nat.lt_irrefl _)]

/-- Of bytes for which there is no room the front is accepted. -/
theorem write_of_exceeds (h : sink.room bs.length < bs.length) : sink.write bs =
    ({ sink with accepted := sink.accepted ++ bs.take (sink.room bs.length) }, some .sinkFull) := by
  rw [write, if_pos h]

theorem write_nil (sink : Sink) : sink.write [] = (sink, none) := by
  rw [write_of_fits (Nat.zero_le _), List.append_nil]

/-- A sink without a limit has room for everything. -/
theorem write_unbounded (h : sink.capacity = none) (bs : Bytes) :
    sink.write bs = ({ sink with accepted := sink.accepted ++ bs }, none) := by
  refine write_of_fits (Nat.le_of_eq ?_)
  simp only [room, h]

/-- A sink that reports no fault has accepted everything. -/
theorem accepted_of_write {after : Sink} (h : sink.write bs = (after, none)) :
    after.accepted = sink.accepted ++ bs := by
  rcases Nat.lt_or_ge (sink.room bs.length) bs.length with hexceeds | hfits
  · rw [write_of_exceeds hexceeds] at h
    cases h
  · rw [write_of_fits hfits] at h
    cases h
    rfl

/-- Where the first part fits there is room for the second part as there was for both. -/
theorem room_after {a : Bytes} (h : a.length ≤ sink.room a.length) (n : Nat) :
    sink.room (a.length + n) =
      a.length + ({ sink with accepted := sink.accepted ++ a } : Sink).room n := by
  obtain ⟨accepted, capacity, flushable⟩ := sink
  cases capacity with
  | none => rfl
  | some c =>
    simp only [room, List.length_append] at h ⊢
    omega

/-- Where the first part does not fit there is no more room for both. -/
theorem room_exceeded {n : Nat} (h : sink.room n < n) (m : Nat) :
    sink.room (n + m) = sink.room n := by
  obtain ⟨accepted, capacity, flushable⟩ := sink
  cases capacity with
  | none => exact absurd h (Nat.lt_irrefl n)
  | some c =>
    simp only [room] at h ⊢
    omega

/-- Bytes offered in two parts are accepted as if they were offered at once, the second part only
if the first one fits. -/
theorem write_append (sink : Sink) (a b : Bytes) : sink.write (a ++ b) =
    match sink.write a with
    | (after, some fault) => (after, some fault)
    | (after, none) => after.write b := by
  rcases Nat.lt_or_ge (sink.room a.length) a.length with hexceeds | hfits
  · have hroom : sink.room (a ++ b).length = sink.room a.length := by
      rw [List.length_append, room_exceeded hexceeds]
    have hboth : sink.room (a ++ b).length < (a ++ b).length := by
      rw [hroom, List.length_append]
      omega
    rw [write_of_exceeds hexceeds, write_of_exceeds hboth, hroom,
      List.take_append_of_le_length (Nat.le_of_lt hexceeds)]
  · have hroom := room_after hfits b.length
    rw [write_of_fits hfits]
    simp only [write, List.length_append, hroom, List.take_length_add_append, List.append_assoc,
      Nat.add_lt_add_iff_left]

/-- Lines offered one by one are accepted as if all of their bytes were offered at once. -/
theorem writeLines_eq_write (sink : Sink) (texts : List String) :
    sink.writeLines texts = sink.write (Bytes.ofLines texts) := by
  induction texts generalizing sink with
  | nil => exact sink.write_nil.symm
  | cons text texts ih =>
    rw [writeLines, Bytes.ofLines_cons, write_append]
    cases sink.write (Bytes.ofString (text ++ "\n")) with
    | mk after fault =>
      cases fault with
      | some fault => rfl
      | none => exact ih after

/-! ### Sinks that never fail -/

/-- The sink takes all bytes and can be flushed. -/
structure NeverFails (sink : Sink) : Prop where
  capacity : sink.capacity = none
  flushable : sink.flushable

theorem neverFails_unlimited : unlimited.NeverFails :=
  ⟨rfl, rfl⟩

/-! ### Sinks of limited capacity -/

/-- A sink that has accepted nothing, accepts `n` bytes and then fails. -/
def limited (n : Nat) (flushable : Bool) : Sink :=
  ⟨[], some n, flushable⟩

/-- More than `n` bytes are cut off. -/
theorem write_limited_of_lt {n : Nat} (h : n < bs.length) (flushable : Bool) :
    (limited n flushable).write bs = (⟨bs.take n, some n, flushable⟩, some .sinkFull) := by
  have hroom : (limited n flushable).room bs.length = n := Nat.min_eq_right (Nat.le_of_lt h)
  rw [write_of_exceeds (by rw [hroom]; exact h), hroom]
  rfl

/-- Up to `n` bytes are accepted. -/
theorem write_limited_of_le {n : Nat} (h : bs.length ≤ n) (flushable : Bool) :
    (limited n flushable).write bs = (⟨bs, some n, flushable⟩, none) := by
  have hroom : (limited n flushable).room bs.length = bs.length := Nat.min_eq_left h
  rw [write_of_fits (Nat.le_of_eq hroom.symm)]
  rfl

end Sink

end CodeGraph
