import CodeGraph.Json.Parser
import CodeGraph.Json.Printer
import CodeGraph.Proofs.Bytes

/-!
# Printed texts

A printed text is read back as it was, whatever characters it has. A character is printed by a
one-letter escape, by its number or by itself, and the reader takes each form as one step.

## Main definitions

* `Json.IsRaw` — a byte that stands for itself in a text

## Main results

* `Json.textBody_printChar` — a printed character is read back
* `Json.readText_printText` — a printed text is read back, and what follows it is left
-/

namespace CodeGraph.Json

variable {c letter : Char} {b e : UInt8} {bs bytes rest : Bytes}

/-! ### Characters as bytes -/

theorem toNat_ascii (h : c.toNat < 0x80) : (ascii c).toNat = c.toNat := by
  rw [ascii, UInt8.toNat_ofNat', Nat.mod_eq_of_lt (by omega)]

theorem ascii_inj {d : Char} (hc : c.toNat < 0x80) (hd : d.toNat < 0x80) :
    ascii c = ascii d ↔ c = d := by
  rw [← UInt8.toNat_inj, toNat_ascii hc, toNat_ascii hd, Char.toNat_inj]

theorem utf8EncodeChar_of_lt (h : c.toNat < 0x80) : String.utf8EncodeChar c = [ascii c] := by
  have hle : c.val.toNat ≤ 0x7f := Nat.le_of_lt_succ h
  simp only [String.utf8EncodeChar, if_pos hle]
  rfl

theorem flatMap_utf8EncodeChar_of_lt {cs : List Char} (h : ∀ c ∈ cs, c.toNat < 0x80) :
    cs.flatMap String.utf8EncodeChar = cs.map ascii := by
  induction cs with
  | nil => rfl
  | cons c cs ih =>
    obtain ⟨hc, hcs⟩ := List.forall_mem_cons.mp h
    rw [List.flatMap_cons, ih hcs, utf8EncodeChar_of_lt hc]
    rfl

/-- A text in ASCII has a byte for each character. -/
theorem ofString_of_all {s : String} (h : s.toList.all (·.toNat < 0x80)) :
    Bytes.ofString s = s.toList.map ascii := by
  have hlt : ∀ c ∈ s.toList, c.toNat < 0x80 := by simpa using h
  rw [← flatMap_utf8EncodeChar_of_lt hlt, ← Bytes.ofString_ofList, String.ofList_toList]

theorem le_ofNat {k : Nat} (h : 0x80 ≤ k) (hk : k < 0x100) : 0x80 ≤ UInt8.ofNat k := by
  rw [UInt8.le_iff_toNat_le, UInt8.toNat_ofNat', Nat.mod_eq_of_lt hk]
  exact h

/-- Beyond ASCII every byte of a character has its high bit set. -/
theorem le_of_mem_utf8EncodeChar (h : 0x80 ≤ c.toNat) :
    ∀ b ∈ String.utf8EncodeChar c, 0x80 ≤ b := by
  have hle : ¬ c.val.toNat ≤ 0x7f := Nat.not_le_of_lt h
  simp only [String.utf8EncodeChar, if_neg hle]
  -- two, three or four bytes
  split
  · simp only [List.forall_mem_cons]
    exact ⟨le_ofNat (by omega) (by omega), le_ofNat (by omega) (by omega), by simp⟩
  · split
    · simp only [List.forall_mem_cons]
      exact ⟨le_ofNat (by omega) (by omega), le_ofNat (by omega) (by omega),
        le_ofNat (by omega) (by omega), by simp⟩
    · simp only [List.forall_mem_cons]
      exact ⟨le_ofNat (by omega) (by omega), le_ofNat (by omega) (by omega),
        le_ofNat (by omega) (by omega), le_ofNat (by omega) (by omega), by simp⟩

/-! ### The steps of the reader -/

theorem textBody_quote (bs : Bytes) : textBody (ascii '"' :: bs) = some (some [], bs) := by
  rw [textBody.eq_def]
  exact if_pos rfl

/-- The byte stands for itself in a text. -/
structure IsRaw (b : UInt8) : Prop where
  ne_quote : b ≠ ascii '"'
  ne_escape : b ≠ ascii '\\'
  not_control : ¬ b < 0x20

theorem textBody_raw (h : IsRaw b) (bs : Bytes) :
    textBody (b :: bs) = (textBody bs).map (prepend [b]) := by
  rw [textBody.eq_def]
  simp only [beq_eq_false_iff_ne.mpr h.ne_quote, beq_eq_false_iff_ne.mpr h.ne_escape,
    if_neg h.not_control, Bool.false_eq_true, if_false]

theorem textBody_escape (h : shortEscape e = some b) (bs : Bytes) :
    textBody (ascii '\\' :: e :: bs) = (textBody bs).map (prepend [b]) := by
  have hquote : (ascii '\\' == ascii '"') = false := rfl
  have hunit : (e == ascii 'u') = false := by
    rw [beq_eq_false_iff_ne]
    rintro rfl
    cases h
  rw [textBody.eq_def]
  simp only [hquote, hunit, h, beq_self_eq_true, if_true, Bool.false_eq_true, if_false]

theorem textBody_unit {h₁ h₂ h₃ h₄ : UInt8} {n : Nat} (h : hexFour? h₁ h₂ h₃ h₄ = some n)
    (hhigh : isHighSurrogate n = false) (hlow : isLowSurrogate n = false) (bs : Bytes) :
    textBody (ascii '\\' :: ascii 'u' :: h₁ :: h₂ :: h₃ :: h₄ :: bs) =
      (textBody bs).map (prepend (charBytes n)) := by
  have hquote : (ascii '\\' == ascii '"') = false := rfl
  rw [textBody.eq_def]
  simp only [hquote, h, hhigh, hlow, beq_self_eq_true, if_true, Bool.false_eq_true, if_false]

theorem prepend_append (front back : Bytes) :
    prepend (front ++ back) = prepend front ∘ prepend back := by
  funext ⟨body, rest⟩
  simp [prepend, Function.comp_def]

theorem textBody_append (h : ∀ b ∈ bytes, IsRaw b) (bs : Bytes) :
    textBody (bytes ++ bs) = (textBody bs).map (prepend bytes) := by
  induction bytes with
  | nil =>
    have hnil : prepend [] = id := by
      funext ⟨body, rest⟩
      simp [prepend]
    rw [hnil, Option.map_id]
    rfl
  | cons b bytes ih =>
    obtain ⟨hb, hbytes⟩ := List.forall_mem_cons.mp h
    rw [List.cons_append, textBody_raw hb, ih hbytes, Option.map_map, ← prepend_append]
    rfl

/-! ### The forms of a character -/

/-- A one-letter escape is read as the character for which it was printed. -/
theorem shortEscape_of_shortEscape? (h : shortEscape? c = some letter) :
    shortEscape (ascii letter) = some (ascii c) ∧ c.toNat < 0x80 ∧ letter.toNat < 0x80 := by
  have hc : c ∈ ['"', '\\', '\x08', '\x0c', '\n', '\r', '\t'] := by
    refine Decidable.byContradiction fun hc => ?_
    simp only [List.mem_cons, List.not_mem_nil, or_false, not_or] at hc
    simp [shortEscape?, hc] at h
  -- each of the seven has a letter of its own
  simp only [List.mem_cons, List.not_mem_nil, or_false] at hc
  rcases hc with rfl | rfl | rfl | rfl | rfl | rfl | rfl
  all_goals
    cases h
    decide

/-- The two digits of a control character are read as its number. -/
theorem hexFour?_of_lt {n : Nat} (h : n < 0x20) :
    hexFour? (ascii '0') (ascii '0') (ascii (Nat.digitChar (n / 16)))
      (ascii (Nat.digitChar (n % 16))) = some n ∧
    (Nat.digitChar (n / 16)).toNat < 0x80 ∧ (Nat.digitChar (n % 16)).toNat < 0x80 := by
  revert n
  decide

theorem isRaw_of_le (h : 0x80 ≤ b) : IsRaw b where
  ne_quote := by
    rintro rfl
    revert h
    decide
  ne_escape := by
    rintro rfl
    revert h
    decide
  not_control hb := by
    rw [UInt8.le_iff_toNat_le] at h
    rw [UInt8.lt_iff_toNat_lt] at hb
    exact absurd (Nat.lt_of_lt_of_le hb (by decide)) (Nat.not_lt_of_le h)

theorem isRaw_ascii (hletter : shortEscape? c = none) (hcontrol : ¬ c.toNat < 0x20)
    (hc : c.toNat < 0x80) : IsRaw (ascii c) := by
  have hne {d : Char} (hd : shortEscape? d ≠ none) (hsmall : d.toNat < 0x80) :
      ascii c ≠ ascii d := by
    rw [Ne, ascii_inj hc hsmall]
    rintro rfl
    exact hd hletter
  refine ⟨hne (by decide) (by decide), hne (by decide) (by decide), ?_⟩
  rw [UInt8.lt_iff_toNat_lt, toNat_ascii hc]
  exact hcontrol

/-- A character that is printed as it is has bytes that stand for themselves. -/
theorem isRaw_of_mem_utf8EncodeChar (hletter : shortEscape? c = none) (h : ¬ c.toNat < 0x20) :
    ∀ b ∈ String.utf8EncodeChar c, IsRaw b := by
  intro b hb
  by_cases hascii : c.toNat < 0x80
  · rw [utf8EncodeChar_of_lt hascii, List.mem_singleton] at hb
    rw [hb]
    exact isRaw_ascii hletter h hascii
  · exact isRaw_of_le (le_of_mem_utf8EncodeChar (Nat.le_of_not_lt hascii) b hb)

theorem charBytes_toNat (c : Char) : charBytes c.toNat = String.utf8EncodeChar c := by
  rw [charBytes, Char.ofNat_toNat, Char.toString, String.singleton_eq_ofList,
    Bytes.ofString_ofList, List.flatMap_singleton]

/-- A control character without an escape of its own is read back from its number. -/
theorem textBody_control (h : c.toNat < 0x20) (bs : Bytes) :
    textBody (['\\', 'u', '0', '0', Nat.digitChar (c.toNat / 16),
      Nat.digitChar (c.toNat % 16)].flatMap String.utf8EncodeChar ++ bs) =
      (textBody bs).map (prepend (String.utf8EncodeChar c)) := by
  obtain ⟨hvalue, hfirst, hsecond⟩ := hexFour?_of_lt h
  -- the number is far from those of surrogates
  have hhigh : isHighSurrogate c.toNat = false := by
    simp only [isHighSurrogate, Bool.and_eq_false_iff, decide_eq_false_iff_not]
    omega
  have hlow : isLowSurrogate c.toNat = false := by
    simp only [isLowSurrogate, Bool.and_eq_false_iff, decide_eq_false_iff_not]
    omega
  rw [flatMap_utf8EncodeChar_of_lt (by simp [hfirst, hsecond]), ← charBytes_toNat]
  exact textBody_unit hvalue hhigh hlow bs

/-! ### Whole texts -/

/-- A printed character is read back. -/
theorem textBody_printChar (c : Char) (bs : Bytes) :
    textBody ((printChar c).flatMap String.utf8EncodeChar ++ bs) =
      (textBody bs).map (prepend (String.utf8EncodeChar c)) := by
  rw [printChar]
  cases hletter : shortEscape? c with
  | some letter =>
    obtain ⟨hescape, hc, hsmall⟩ := shortEscape_of_shortEscape? hletter
    have hbytes : ['\\', letter].flatMap String.utf8EncodeChar = [ascii '\\', ascii letter] :=
      flatMap_utf8EncodeChar_of_lt (by simp [hsmall])
    rw [hbytes, utf8EncodeChar_of_lt hc]
    exact textBody_escape hescape bs
  | none =>
    dsimp only
    split
    next hcontrol => exact textBody_control hcontrol bs
    next hcontrol =>
      rw [List.flatMap_singleton]
      exact textBody_append (isRaw_of_mem_utf8EncodeChar hletter hcontrol) bs

theorem textBody_printText (cs : List Char) (bs : Bytes) :
    textBody ((cs.flatMap printChar).flatMap String.utf8EncodeChar ++ ascii '"' :: bs) =
      some (some (cs.flatMap String.utf8EncodeChar), bs) := by
  induction cs with
  | nil => exact textBody_quote bs
  | cons c cs ih =>
    rw [List.flatMap_cons, List.flatMap_append, List.append_assoc, textBody_printChar, ih]
    rfl

/-- The form of a text is an opening quote, the forms of its characters, and a closing quote. -/
theorem printText_eq (s : String) : printText s =
    ascii '"' :: ((s.toList.flatMap printChar).flatMap String.utf8EncodeChar ++ [ascii '"']) := by
  rw [printText, Bytes.ofString_ofList, List.cons_append, List.flatMap_cons, List.flatMap_append]
  rfl

/-- A printed text is read back behind its opening quote, and what follows it is left. -/
theorem readText_printText (s : String) (rest : Bytes) : ∃ body,
    printText s ++ rest = ascii '"' :: body ∧ readText body = some (some s, rest) := by
  refine ⟨_, by rw [printText_eq, List.cons_append, List.append_assoc], ?_⟩
  have hread : Bytes.toString? (s.toList.flatMap String.utf8EncodeChar) = some s := by
    rw [Bytes.toString?_eq_some_iff, ← Bytes.ofString_ofList, String.ofList_toList]
  rw [readText, List.singleton_append, textBody_printText]
  simp [hread]

end CodeGraph.Json
