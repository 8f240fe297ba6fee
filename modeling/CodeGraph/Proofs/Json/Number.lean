import CodeGraph.Proofs.Json.Text
import CodeGraph.Snapshot.Json
import Mathlib.Data.List.TakeDrop

/-!
# Printed numbers

The decimal form of a natural number is read back as a number with this text, unless a digit, a
point or an exponent follows it. A word of 32 bits is the value of its decimal form.

## Main definitions

* `Json.EndsNumber` — what can follow a number

## Main results

* `Json.readNumber_toString` — a decimal form is read back
* `Json.word?_ofWord` — a word is the value of its decimal form
-/

namespace CodeGraph.Json

variable {c : Char} {n : Nat} {rest : Bytes}

/-! ### Digits as bytes -/

theorem toNat_of_isDigit (h : c.isDigit) : 48 ≤ c.toNat ∧ c.toNat ≤ 57 := by
  simp only [Char.isDigit, Bool.and_eq_true, decide_eq_true_eq, ge_iff_le,
    UInt32.le_iff_toNat_le] at h
  exact h

theorem lt_of_isDigit (h : c.isDigit) : c.toNat < 0x80 :=
  Nat.lt_of_le_of_lt (toNat_of_isDigit h).2 (by decide)

theorem isDigitByte_iff {b : UInt8} : isDigitByte b ↔ 48 ≤ b.toNat ∧ b.toNat ≤ 57 := by
  simp only [isDigitByte, Bool.and_eq_true, decide_eq_true_eq, UInt8.le_iff_toNat_le]
  exact Iff.rfl

theorem isDigitByte_ascii (h : c.isDigit) : isDigitByte (ascii c) := by
  rw [isDigitByte_iff, toNat_ascii (lt_of_isDigit h)]
  exact toNat_of_isDigit h

theorem isDigit_of_mem_toDigits (h : c ∈ Nat.toDigits 10 n) : c.isDigit :=
  Nat.isDigit_of_mem_toDigits (by decide) (by decide) h

theorem exists_toDigits_cons (n : Nat) : ∃ d ds, Nat.toDigits 10 n = d :: ds ∧ d.isDigit := by
  obtain ⟨d, ds, hds⟩ := List.exists_cons_of_ne_nil (Nat.toDigits_ne_nil (n := n) (b := 10))
  exact ⟨d, ds, hds, isDigit_of_mem_toDigits (hds ▸ List.mem_cons_self)⟩

/-- The bytes of a decimal form. -/
theorem ofString_toString (n : Nat) :
    Bytes.ofString (toString n) = (Nat.toDigits 10 n).map ascii := by
  rw [Nat.toString_eq_ofList_toDigits, Bytes.ofString_ofList]
  exact flatMap_utf8EncodeChar_of_lt fun c hc => lt_of_isDigit (isDigit_of_mem_toDigits hc)

/-- A decimal form begins with a digit. -/
theorem exists_digit_cons (n : Nat) : ∃ b bs, Bytes.ofString (toString n) = b :: bs ∧
    isDigitByte b := by
  obtain ⟨d, ds, hds, hd⟩ := exists_toDigits_cons n
  refine ⟨ascii d, ds.map ascii, ?_, isDigitByte_ascii hd⟩
  rw [ofString_toString, hds, List.map_cons]

/-- A digit is none of the characters that are no digits. -/
theorem ne_ascii_of_isDigitByte {b : UInt8} (h : isDigitByte b)
    (hc : isDigitByte (ascii c) = false) : b ≠ ascii c := by
  rintro rfl
  rw [hc] at h
  cases h

/-- No decimal form but that of zero begins with a zero. -/
theorem eq_zero_of_toDigits {cs : List Char} (h : Nat.toDigits 10 n = '0' :: cs) : n = 0 := by
  induction n using Nat.strongRecOn generalizing cs with
  | ind n ih =>
    rw [Nat.toDigits_eq_if (by decide)] at h
    split at h
    next => exact Nat.digitChar_eq_zero.mp (List.cons.inj h).1
    next hlarge =>
      -- the first digit is that of a smaller number, which is not zero
      obtain ⟨d, ds, hds, -⟩ := exists_toDigits_cons (n / 10)
      rw [hds, List.cons_append] at h
      have hzero := ih (n / 10) (by omega) ((List.cons.inj h).1 ▸ hds)
      omega

/-! ### Numbers read back -/

/-- No digit, point or exponent follows. -/
def EndsNumber (rest : Bytes) : Prop :=
  ∀ b ∈ rest.head?, isDigitByte b = false ∧ b ≠ ascii '.' ∧ b ≠ ascii 'e' ∧ b ≠ ascii 'E'

theorem readDigits_append {digits : Bytes} (hdigits : ∀ b ∈ digits, isDigitByte b)
    (hne : digits ≠ []) (h : EndsNumber rest) :
    readDigits (digits ++ rest) = some (digits, rest) := by
  have htake : rest.takeWhile isDigitByte = [] := by
    cases rest with
    | nil => rfl
    | cons b rest => exact List.takeWhile_cons_of_neg (by simp [(h b rfl).1])
  have hdrop : rest.dropWhile isDigitByte = rest := by
    cases rest with
    | nil => rfl
    | cons b rest => exact List.dropWhile_cons_of_neg (by simp [(h b rfl).1])
  obtain ⟨b, bs, rfl⟩ := List.exists_cons_of_ne_nil hne
  rw [readDigits, List.span_eq_takeWhile_dropWhile, List.takeWhile_append_of_pos hdigits,
    List.dropWhile_append_of_pos hdigits, htake, hdrop, List.append_nil]

theorem readFraction_eq (h : EndsNumber rest) : readFraction rest = some ([], rest) := by
  cases rest with
  | nil => rfl
  | cons b rest => simp [readFraction, (h b rfl).2.1]

theorem readExponent_eq (h : EndsNumber rest) : readExponent rest = some ([], rest) := by
  cases rest with
  | nil => rfl
  | cons b rest => simp [readExponent, (h b rfl).2.2]

/-- The whole part of a decimal form is all of it. -/
theorem readWhole_toDigits (h : EndsNumber rest) :
    readWhole ((Nat.toDigits 10 n).map ascii ++ rest) =
      some ((Nat.toDigits 10 n).map ascii, rest) := by
  obtain ⟨d, ds, hds, hd⟩ := exists_toDigits_cons n
  have hdigits : ∀ b ∈ (d :: ds).map ascii, isDigitByte b := by
    intro b hb
    obtain ⟨c, hc, rfl⟩ := List.mem_map.mp hb
    exact isDigitByte_ascii (isDigit_of_mem_toDigits (hds ▸ hc))
  rw [hds, List.map_cons, List.cons_append, readWhole]
  split
  next hzero =>
    -- only the decimal form of zero begins so, and it has no further digits
    obtain rfl := (ascii_inj (lt_of_isDigit hd) (by decide)).mp (eq_of_beq hzero)
    obtain rfl := eq_zero_of_toDigits hds
    rw [Nat.toDigits_zero] at hds
    cases hds
    rfl
  next => exact readDigits_append hdigits (by simp) h

/-- The decimal form of a number is read back. -/
theorem readNumber_toString (n : Nat) (h : EndsNumber rest) :
    readNumber (Bytes.ofString (toString n) ++ rest) = some (number (toString n), rest) := by
  have hsign : readSign [ascii '-'] (Bytes.ofString (toString n) ++ rest) =
      ([], Bytes.ofString (toString n) ++ rest) := by
    obtain ⟨b, bs, hbs, hb⟩ := exists_digit_cons n
    have hne : b ≠ ascii '-' := ne_ascii_of_isDigitByte hb rfl
    rw [hbs, List.cons_append, readSign, if_neg (by simpa using hne)]
  have htext := Bytes.toString?_eq_some_iff.mpr (rfl : Bytes.ofString (toString n) = _)
  rw [readNumber, hsign]
  simp only [ofString_toString] at htext ⊢
  simp [readWhole_toDigits h, readFraction_eq h, readExponent_eq h, htext]

theorem word?_ofWord (n : UInt32) : word? (ofWord n) = some n := by
  have hdigits : (toString n.toNat).toList.all Char.isDigit := by
    rw [List.all_eq_true, Nat.toString_eq_repr, Nat.toList_repr]
    exact fun c => isDigit_of_mem_toDigits
  have hvalue : (toString n.toNat).toList.foldl (fun m c => 10 * m + (c.toNat - '0'.toNat)) 0 =
      n.toNat := by
    rw [Nat.toString_eq_repr, Nat.toList_repr, ← Nat.ofDigitChars_eq_foldl,
      Nat.ofDigitChars_ten_toDigits]
  rw [ofWord, word?, if_pos hdigits]
  simp only [hvalue]
  rw [if_pos n.toNat_lt_size, UInt32.ofNat_toNat]

end CodeGraph.Json
