import CodeGraph.Binary
import CodeGraph.Proofs.Bytes
import CodeGraph.Proofs.Except
import Mathlib.Data.List.Basic
import Mathlib.Tactic.MkIffOfInductiveProp

/-!
# Exact codecs

A codec is exact if a value is read from the front of some bytes exactly if these begin with its
encoding: what is written is read back, whatever follows it, and what is read is what would have
been written. The codecs of numbers, texts and choices are exact, and so are those made of exact
codecs.

## Main definitions

* `Codec.Exact` — reading and writing agree on the values of a kind
* `Codec.FitsLength`, `Codec.FitsText`, `Codec.FitsList` — what can be written after its length

## Main results

* `Codec.exact_word`, `Codec.exact_text`, `Codec.exact_choice` — the codecs of single values
* `Codec.Exact.pair`, `Codec.Exact.map`, `Codec.Exact.list`, `Codec.Exact.option` — codecs made of
  others
-/

namespace CodeGraph.Codec

variable {α β : Type} {a : Codec α} {b : Codec β} {P Q : α → Prop} {R : β → Prop}
  {bs front rest : Bytes} {n width : Nat}

/-- A value is read from the front of some bytes exactly if it is of the kind and the bytes begin
with its encoding. -/
def Exact (c : Codec α) (P : α → Prop) : Prop :=
  ∀ bs x rest, c.decode bs = .ok (x, rest) ↔ P x ∧ bs = c.encode x ++ rest

/-- A length that eight bytes can hold. -/
def FitsLength (n : Nat) : Prop :=
  n < Nat.pow 256 8

/-- A text whose length in bytes eight bytes can hold. -/
def FitsText (s : String) : Prop :=
  FitsLength (Bytes.ofString s).length

/-- A list whose length eight bytes can hold, with elements of a kind. -/
@[mk_iff]
structure FitsList (P : α → Prop) (xs : List α) : Prop where
  length : FitsLength xs.length
  elements : ∀ x ∈ xs, P x

theorem fitsText_iff {s : String} : FitsText s ↔ FitsLength s.utf8ByteSize := by
  rw [FitsText, Bytes.length_ofString]

instance (n : Nat) : Decidable (FitsLength n) :=
  inferInstanceAs (Decidable (n < Nat.pow 256 8))

instance (s : String) : Decidable (FitsText s) :=
  decidable_of_iff _ fitsText_iff.symm

instance [DecidablePred P] (xs : List α) : Decidable (FitsList P xs) :=
  decidable_of_iff _ (fitsList_iff P xs).symm

/-! ### Numbers -/

theorem readLittleEndian_eq_ok_iff : readLittleEndian width bs = .ok (n, rest) ↔
    n < Nat.pow 256 width ∧ bs = littleEndian width n ++ rest := by
  induction width generalizing bs n with
  | zero =>
    simp only [readLittleEndian, littleEndian, Except.ok.injEq, Prod.mk.injEq, List.nil_append]
    constructor
    · rintro ⟨rfl, rfl⟩
      exact ⟨by decide, rfl⟩
    · rintro ⟨hn, rfl⟩
      exact ⟨(Nat.lt_one_iff.mp hn).symm, rfl⟩
  | succ width ih =>
    have hpow : Nat.pow 256 (width + 1) = Nat.pow 256 width * 256 := rfl
    cases bs with
    | nil => simp [readLittleEndian, littleEndian]
    | cons byte bs =>
      simp only [readLittleEndian, littleEndian, Except.map_eq_ok_iff, Prod.exists,
        Prod.mk.injEq, List.cons_append, List.cons.injEq]
      constructor
      · rintro ⟨high, rest, hread, rfl, rfl⟩
        obtain ⟨hhigh, rfl⟩ := ih.mp hread
        -- the first byte is the remainder by 256 and the others make up the quotient
        have hbyte := byte.toNat_lt
        have hdiv : (byte.toNat + 256 * high) / 256 = high := by omega
        refine ⟨by omega, ?_, by rw [hdiv]⟩
        apply UInt8.toNat_inj.mp
        rw [UInt8.toNat_ofNat']
        omega
      · rintro ⟨hn, rfl, rfl⟩
        refine ⟨n / 256, rest, ih.mpr ⟨by omega, rfl⟩, ?_, rfl⟩
        rw [UInt8.toNat_ofNat']
        omega

theorem exact_length : length.Exact FitsLength := fun _ _ _ =>
  readLittleEndian_eq_ok_iff

theorem exact_word : word.Exact fun _ => True := by
  intro bs n rest
  simp only [word, Except.map_eq_ok_iff, Prod.exists, readLittleEndian_eq_ok_iff, Prod.mk.injEq,
    true_and]
  constructor
  · rintro ⟨m, rest, ⟨hm, rfl⟩, rfl, rfl⟩
    rw [UInt32.toNat_ofNat_of_lt' hm]
  · rintro rfl
    exact ⟨n.toNat, rest, ⟨n.toNat_lt, rfl⟩, UInt32.ofNat_toNat, rfl⟩

theorem exact_choice [BEq α] [LawfulBEq α] {values : List α} (hnodup : values.Nodup)
    (hlength : values.length ≤ Nat.pow 256 4) : (choice values).Exact (· ∈ values) := by
  intro bs x rest
  simp only [choice, Except.bind_eq_ok_iff, Prod.exists, readLittleEndian_eq_ok_iff]
  constructor
  · rintro ⟨n, rest, ⟨hn, rfl⟩, h⟩
    split at h
    next => cases h
    next y hy =>
      cases h
      -- a value that is listed once has no other place than the one that was read
      obtain ⟨hlt, rfl⟩ := List.getElem?_eq_some_iff.mp hy
      exact ⟨List.getElem_mem hlt, by rw [hnodup.idxOf_getElem]⟩
  · rintro ⟨hx, rfl⟩
    have hlt := List.idxOf_lt_length_of_mem hx
    refine ⟨values.idxOf x, rest, ⟨by omega, rfl⟩, ?_⟩
    rw [List.getElem?_eq_getElem hlt, List.getElem_idxOf hlt]
    rfl

/-! ### Texts -/

theorem takeExactly_eq_some_iff :
    takeExactly n bs = some (front, rest) ↔ front.length = n ∧ bs = front ++ rest := by
  induction n generalizing bs front rest with
  | zero =>
    simp only [takeExactly, Option.some.injEq, Prod.mk.injEq, List.length_eq_zero_iff]
    constructor
    · rintro ⟨rfl, rfl⟩
      exact ⟨rfl, rfl⟩
    · rintro ⟨rfl, rfl⟩
      exact ⟨rfl, rfl⟩
  | succ n ih =>
    cases bs with
    | nil =>
      simp only [takeExactly]
      constructor
      · intro h
        cases h
      · rintro ⟨hlength, h⟩
        obtain ⟨rfl, -⟩ := List.append_eq_nil_iff.mp h.symm
        cases hlength
    | cons byte bs =>
      simp only [takeExactly, Option.map_eq_some_iff, Prod.exists, Prod.mk.injEq, ih]
      constructor
      · rintro ⟨front, rest, ⟨rfl, rfl⟩, rfl, rfl⟩
        exact ⟨rfl, rfl⟩
      · rintro ⟨hlength, h⟩
        cases front with
        | nil => cases hlength
        | cons c front =>
          obtain ⟨rfl, rfl⟩ := List.cons.inj h
          exact ⟨front, rest, ⟨Nat.succ.inj hlength, rfl⟩, rfl, rfl⟩

theorem exact_text : text.Exact FitsText := by
  intro bs s rest
  simp only [text, Except.bind_eq_ok_iff, Prod.exists, exact_length _ _ _]
  constructor
  · rintro ⟨n, behind, ⟨hn, rfl⟩, h⟩
    split at h
    next => cases h
    next front _ htake =>
      obtain ⟨rfl, rfl⟩ := takeExactly_eq_some_iff.mp htake
      split at h
      next => cases h
      next hs =>
        cases h
        obtain rfl := Bytes.toString?_eq_some_iff.mp hs
        exact ⟨hn, (List.append_assoc _ _ _).symm⟩
  · rintro ⟨hs, rfl⟩
    refine ⟨_, _, ⟨hs, List.append_assoc _ _ _⟩, ?_⟩
    rw [takeExactly_eq_some_iff.mpr ⟨rfl, rfl⟩]
    simp only [Bytes.toString?_eq_some_iff.mpr rfl]
    rfl

/-! ### Codecs made of others -/

namespace Exact

theorem congr (h : a.Exact P) (hPQ : ∀ x, P x ↔ Q x) : a.Exact Q := fun bs x rest => by
  rw [h bs x rest, hPQ]

theorem pair (ha : a.Exact P) (hb : b.Exact R) :
    (a.pair b).Exact fun x => P x.1 ∧ R x.2 := by
  rintro bs ⟨x, y⟩ rest
  simp only [Codec.pair, Except.bind_eq_ok_iff, Prod.exists, ha _ _ _, hb _ _ _]
  constructor
  · rintro ⟨x, _, ⟨hx, rfl⟩, y, rest, ⟨hy, rfl⟩, h⟩
    cases h
    exact ⟨⟨hx, hy⟩, (List.append_assoc _ _ _).symm⟩
  · rintro ⟨⟨hx, hy⟩, rfl⟩
    exact ⟨x, _, ⟨hx, List.append_assoc _ _ _⟩, y, rest, ⟨hy, rfl⟩, rfl⟩

/-- Values are written in the form of others if each can be made of its parts. -/
theorem map (ha : a.Exact P) {make : α → β} {parts : β → α} (hmake : ∀ y, make (parts y) = y)
    (hparts : ∀ x, parts (make x) = x) : (a.map make parts).Exact fun y => P (parts y) := by
  intro bs y rest
  simp only [Codec.map, Except.map_eq_ok_iff, Prod.exists, ha _ _ _, Prod.mk.injEq]
  constructor
  · rintro ⟨x, rest, ⟨hx, rfl⟩, rfl, rfl⟩
    rw [hparts]
    exact ⟨hx, rfl⟩
  · rintro ⟨hy, rfl⟩
    exact ⟨parts y, rest, ⟨hy, rfl⟩, hmake y, rfl⟩

theorem readMany_eq_ok_iff (ha : a.Exact P) {xs : List α} : a.readMany n bs = .ok (xs, rest) ↔
    xs.length = n ∧ (∀ x ∈ xs, P x) ∧ bs = xs.flatMap a.encode ++ rest := by
  induction n generalizing bs xs rest with
  | zero =>
    simp only [readMany, Except.ok.injEq, Prod.mk.injEq, List.length_eq_zero_iff]
    constructor
    · rintro ⟨rfl, rfl⟩
      exact ⟨rfl, by simp, rfl⟩
    · rintro ⟨rfl, -, rfl⟩
      exact ⟨rfl, rfl⟩
  | succ n ih =>
    simp only [readMany, Except.bind_eq_ok_iff, Prod.exists, ha _ _ _, ih]
    constructor
    · rintro ⟨x, _, ⟨hx, rfl⟩, xs, rest, ⟨rfl, hxs, rfl⟩, h⟩
      cases h
      exact ⟨rfl, List.forall_mem_cons.mpr ⟨hx, hxs⟩, by
        rw [List.flatMap_cons, List.append_assoc]⟩
    · rintro ⟨hlength, hxs, rfl⟩
      cases xs with
      | nil => cases hlength
      | cons x xs =>
        obtain ⟨hx, hxs⟩ := List.forall_mem_cons.mp hxs
        refine ⟨x, xs.flatMap a.encode ++ rest, ⟨hx, ?_⟩, xs, rest,
          ⟨Nat.succ.inj hlength, hxs, rfl⟩, rfl⟩
        rw [List.flatMap_cons, List.append_assoc]

theorem list (ha : a.Exact P) : (Codec.list a).Exact (FitsList P) := by
  intro bs xs rest
  simp only [Codec.list, Except.bind_eq_ok_iff, Prod.exists, exact_length _ _ _,
    ha.readMany_eq_ok_iff]
  constructor
  · rintro ⟨n, _, ⟨hn, rfl⟩, rfl, hxs, rfl⟩
    exact ⟨⟨hn, hxs⟩, (List.append_assoc _ _ _).symm⟩
  · rintro ⟨hxs, rfl⟩
    exact ⟨xs.length, _, ⟨hxs.length, List.append_assoc _ _ _⟩, rfl, hxs.elements, rfl⟩

theorem option (ha : a.Exact P) : (Codec.option a).Exact fun o => ∀ x, o = some x → P x := by
  intro bs o rest
  cases bs with
  | nil => cases o <;> simp [Codec.option]
  | cons byte bs =>
    -- the first byte is 0, 1 or none of those that are written
    simp only [Codec.option]
    split
    next hzero =>
      subst hzero
      cases o <;> simp [eq_comm]
    next hzero =>
      split
      next hone =>
        subst hone
        cases o <;> simp [Except.map_eq_ok_iff, ha _ _ _]
      next hone => cases o <;> simp [hzero, hone]

end Exact

end CodeGraph.Codec
