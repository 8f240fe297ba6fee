import CodeGraph.Text.Alphanumeric
import CodeGraph.Text.LowerCase

/-!
# Texts in lower case

The image of a capital is no capital, so a text in lower case is its own lower-case form. Images of
letters are letters, with one exception: to the image of `İ` belongs a combining dot, which is none.

The tables are compared run by run: a run of capitals avoids the images of another one if it lies
apart from them, or if every second code point is a capital and the images are the others.

## Main definitions

* `Text.IsLowered` — the character is its own image wherever it stands

## Main results

* `Text.lower_lower` — the lower-case form is in lower case
* `Text.isAlphanumeric_lowerChar` — images of letters and numbers are letters and numbers
* `Text.mem_lowerAfter` — images are images of single characters, up to the exceptions
-/

namespace CodeGraph.Text

/-! ### Runs -/

namespace CaseRun

variable {r r' : CaseRun} {n : Nat}

/-- The image of the last capital. -/
def lastImage (r : CaseRun) : Nat :=
  r.image + (r.last - r.first)

/-- The images of `r` lie apart from the capitals of `r'`, or between them. -/
def avoids (r r' : CaseRun) : Bool :=
  -- the comparisons of `Nat` itself, since the whole table is compared with itself by evaluation
  r.lastImage.blt r'.first || r'.last.blt r.image ||
    (r'.step.beq 2 && (r.step.beq 2 || r.first.beq r.last) && ((r.image + r'.first) % 2).beq 1)

/-- All images are code points of characters. -/
def isValid (r : CaseRun) : Bool :=
  r.lastImage < 0xD800 || (0xDFFF < r.image && r.lastImage < 0x110000)

theorem holds_iff : r.holds n ↔ r.first ≤ n ∧ n ≤ r.last ∧ (n - r.first) % r.step = 0 := by
  simp [holds, and_assoc]

theorem le_image (h : r.holds n) :
    r.image ≤ r.image + (n - r.first) ∧ r.image + (n - r.first) ≤ r.lastImage := by
  obtain ⟨-, hlast, -⟩ := holds_iff.mp h
  rw [lastImage]
  omega

/-- The image of a capital on a run is none of the capitals that the run avoids. -/
theorem not_holds_of_avoids (havoids : r.avoids r') (h : r.holds n) :
    ¬ r'.holds (r.image + (n - r.first)) := by
  intro himage
  obtain ⟨hfirst, hlast, hstep⟩ := holds_iff.mp h
  obtain ⟨hfirst', hlast', hstep'⟩ := holds_iff.mp himage
  simp only [avoids, Bool.or_eq_true, Bool.and_eq_true, Nat.blt_eq, Nat.beq_eq] at havoids
  rw [lastImage] at havoids
  rcases havoids with (hbefore | hafter) | ⟨⟨htwo', htwo | hsingle⟩, hodd⟩
  · omega
  · omega
  · -- capitals of `r'` and images of `r` have steps of two, and start an odd distance apart
    rw [htwo] at hstep
    rw [htwo'] at hstep'
    omega
  · -- the only image of `r` lies an odd distance from the capitals of `r'`
    rw [htwo'] at hstep'
    omega

theorem toNat_ofNat_image (hvalid : r.isValid) (h : r.holds n) :
    (Char.ofNat (r.image + (n - r.first))).toNat = r.image + (n - r.first) := by
  obtain ⟨himage, hlast⟩ := le_image h
  have hchar : (r.image + (n - r.first)).isValidChar := by
    simp only [isValid, Bool.or_eq_true, Bool.and_eq_true, decide_eq_true_eq] at hvalid
    rcases hvalid with hlow | ⟨hhigh, hmax⟩
    · exact Or.inl (by omega)
    · exact Or.inr ⟨by omega, by omega⟩
  rw [Char.ofNat, dif_pos hchar]
  rfl

end CaseRun

/-! ### The tables -/

theorem avoids_caseRuns : ∀ r ∈ caseRuns, ∀ r' ∈ caseRuns, r.avoids r' := by
  have hall : caseRuns.all fun r => caseRuns.all (r.avoids ·) := by decide +kernel
  simpa using hall

theorem isValid_caseRuns : ∀ r ∈ caseRuns, r.isValid := by
  have hall : caseRuns.all CaseRun.isValid := by decide +kernel
  simpa using hall

/-- The images of each run lie within one range of letters and numbers. -/
theorem images_alphanumeric : ∀ r ∈ caseRuns, ∃ range ∈ alphanumericRanges.ranges,
    range.1 ≤ r.image ∧ r.lastImage ≤ range.2 := by
  have hall : caseRuns.all fun r => alphanumericRanges.ranges.any fun range =>
      range.1.ble r.image && r.lastImage.ble range.2 := by
    decide +kernel
  simpa using hall

theorem images_ne_dotted : ∀ r ∈ caseRuns, r.lastImage < 'İ'.toNat ∨ 'İ'.toNat < r.image := by
  have hall : caseRuns.all fun r => r.lastImage < 'İ'.toNat || 'İ'.toNat < r.image := by
    decide +kernel
  simpa using hall

/-! ### Characters -/

variable {c d : Char} {cs before : List Char}

/-- The character is no capital on a run and neither of the two exceptions, so that it is its own
image wherever it stands. -/
structure IsLowered (c : Char) : Prop where
  image : lowerChar c = c
  ne_sigma : c ≠ 'Σ'
  ne_dotted : c ≠ 'İ'

instance (c : Char) : Decidable (IsLowered c) :=
  decidable_of_iff (lowerChar c = c ∧ c ≠ 'Σ' ∧ c ≠ 'İ')
    ⟨fun h => ⟨h.1, h.2.1, h.2.2⟩, fun h => ⟨h.image, h.ne_sigma, h.ne_dotted⟩⟩

/-- A character is on no run, or it is a capital and its image is where the run says. -/
theorem lowerChar_cases (c : Char) : lowerChar c = c ∧ (∀ r ∈ caseRuns, ¬ r.holds c.toNat) ∨
    ∃ r ∈ caseRuns, r.holds c.toNat ∧ (lowerChar c).toNat = r.image + (c.toNat - r.first) := by
  rw [lowerChar]
  cases hfind : caseRuns.find? (·.holds c.toNat) with
  | none => exact Or.inl ⟨rfl, List.find?_eq_none.mp hfind⟩
  | some r =>
    have hr := List.mem_of_find?_eq_some hfind
    have hholds : r.holds c.toNat := by simpa using List.find?_some hfind
    refine Or.inr ⟨r, hr, hholds, ?_⟩
    exact CaseRun.toNat_ofNat_image (isValid_caseRuns r hr) hholds

theorem lowerChar_of_not_holds (h : ∀ r ∈ caseRuns, ¬ r.holds c.toNat) : lowerChar c = c := by
  rw [lowerChar, List.find?_eq_none.mpr h]

/-- The image of a character is in lower case. -/
theorem isLowered_lowerChar (h : c ≠ 'İ') : IsLowered (lowerChar c) := by
  rcases lowerChar_cases c with ⟨hsame, hno⟩ | ⟨r, hr, hholds, himage⟩
  · -- a capital sigma is on a run
    rw [hsame]
    refine ⟨hsame, ?_, h⟩
    rintro rfl
    exact absurd hsame (by decide)
  · have hno : ∀ r' ∈ caseRuns, ¬ r'.holds (lowerChar c).toNat := by
      intro r' hr'
      rw [himage]
      exact CaseRun.not_holds_of_avoids (avoids_caseRuns r hr r' hr') hholds
    have hfixed := lowerChar_of_not_holds hno
    refine ⟨hfixed, ?_, ?_⟩
    · intro hsigma
      rw [hsigma] at hfixed
      exact absurd hfixed (by decide)
    · intro hdotted
      obtain ⟨hfirst, hlast⟩ := CaseRun.le_image hholds
      rw [hdotted] at himage
      have hapart := images_ne_dotted r hr
      omega

/-- The image of a letter or a number is a letter or a number. -/
theorem isAlphanumeric_lowerChar (h : isAlphanumeric c) : isAlphanumeric (lowerChar c) := by
  rcases lowerChar_cases c with ⟨hsame, -⟩ | ⟨r, hr, hholds, himage⟩
  · rwa [hsame]
  · obtain ⟨range, hrange, hfirst, hlast⟩ := images_alphanumeric r hr
    obtain ⟨hle, hle'⟩ := CaseRun.le_image hholds
    rw [isAlphanumeric, CharTable.contains, List.any_eq_true]
    refine ⟨range, hrange, ?_⟩
    rw [himage, Bool.and_eq_true, decide_eq_true_iff, decide_eq_true_iff]
    omega

/-! ### Texts -/

/-- A text in lower case is its own lower-case form. -/
theorem lowerAfter_of_isLowered (h : ∀ c ∈ cs, IsLowered c) (before : List Char) :
    lowerAfter before cs = cs := by
  induction cs generalizing before with
  | nil => rfl
  | cons c cs ih =>
    obtain ⟨hc, hcs⟩ := List.forall_mem_cons.mp h
    simp [lowerAfter, hc.ne_sigma, hc.ne_dotted, hc.image, ih hcs]

/-- The image of a capital sigma is one of the small ones. -/
theorem lowerSigma_eq (before after : List Char) :
    lowerSigma before after = 'ς' ∨ lowerSigma before after = 'σ' := by
  unfold lowerSigma
  split
  · exact Or.inl rfl
  · exact Or.inr rfl

/-- A character of the lower-case form is a small sigma, the image of a character of the text or
part of the image of `İ`. -/
theorem mem_lowerAfter (h : d ∈ lowerAfter before cs) : d = 'ς' ∨ d = 'σ' ∨
    (∃ c ∈ cs, c ≠ 'İ' ∧ d = lowerChar c) ∨ 'İ' ∈ cs ∧ (d = 'i' ∨ d = '\u0307') := by
  induction cs generalizing before with
  | nil => simp [lowerAfter] at h
  | cons c cs ih =>
    rw [lowerAfter, List.mem_append] at h
    rcases h with h | h
    · by_cases hsigma : c = 'Σ'
      · rw [if_pos (by simpa using hsigma), List.mem_singleton] at h
        rcases lowerSigma_eq before cs with heq | heq
        · exact Or.inl (h.trans heq)
        · exact Or.inr (Or.inl (h.trans heq))
      · rw [if_neg (by simpa using hsigma)] at h
        by_cases hdotted : c = 'İ'
        · rw [if_pos (by simpa using hdotted)] at h
          exact Or.inr (Or.inr (Or.inr ⟨by simp [hdotted], by simpa using h⟩))
        · rw [if_neg (by simpa using hdotted), List.mem_singleton] at h
          exact Or.inr (Or.inr (Or.inl ⟨c, List.mem_cons_self, hdotted, h⟩))
    · rcases ih h with heq | heq | ⟨c', hc', hne, heq⟩ | ⟨hdotted, heq⟩
      · exact Or.inl heq
      · exact Or.inr (Or.inl heq)
      · exact Or.inr (Or.inr (Or.inl ⟨c', List.mem_cons_of_mem _ hc', hne, heq⟩))
      · exact Or.inr (Or.inr (Or.inr ⟨List.mem_cons_of_mem _ hdotted, heq⟩))

theorem isLowered_of_mem_lower (h : d ∈ lower cs) : IsLowered d := by
  rcases mem_lowerAfter h with rfl | rfl | ⟨c, -, hne, rfl⟩ | ⟨-, rfl | rfl⟩
  · decide
  · decide
  · exact isLowered_lowerChar hne
  · decide
  · decide

/-- The lower-case form is in lower case. -/
theorem lower_lower (cs : List Char) : lower (lower cs) = lower cs :=
  lowerAfter_of_isLowered (fun _ => isLowered_of_mem_lower) []

/-- A dotted capital leaves its dot. -/
theorem dot_mem_lowerAfter (h : 'İ' ∈ cs) (before : List Char) :
    '\u0307' ∈ lowerAfter before cs := by
  induction cs generalizing before with
  | nil => simp at h
  | cons c cs ih =>
    rw [lowerAfter, List.mem_append]
    rcases List.mem_cons.mp h with rfl | h
    · exact Or.inl (by simp)
    · exact Or.inr (ih h (c :: before))

theorem lower_ne_nil (h : cs ≠ []) : lower cs ≠ [] := by
  cases cs with
  | nil => exact absurd rfl h
  | cons c cs =>
    rw [lower, lowerAfter]
    intro hnil
    have himage := (List.append_eq_nil_iff.mp hnil).1
    by_cases hsigma : c == 'Σ'
    · simp [hsigma] at himage
    · by_cases hdotted : c == 'İ'
      · simp [hsigma, hdotted] at himage
      · simp [hsigma, hdotted] at himage

end CodeGraph.Text
