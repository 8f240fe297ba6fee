import CodeGraph.Text.Blank

/-!
# Words of a text

Words are not empty and hold no blanks, and words that are joined by single spaces can be read back.

## Main definitions

* `Text.IsWord` — a text that is not empty and holds no blank

## Main results

* `Text.isWord_of_mem_words` — the words of a text are words
* `Text.exists_mem_words_iff` — the words hold what is not blank
* `Text.words_intercalate` — joined words can be read back
-/

namespace CodeGraph.Text

variable {cs w : List Char} {parts : List (List Char)} {c : Char}

/-- The text is not empty and holds no blank. -/
structure IsWord (w : List Char) : Prop where
  ne_nil : w ≠ []
  not_blank : ∀ c ∈ w, isBlank c = false

theorem isWord_iff : IsWord w ↔ w ≠ [] ∧ w.all (! isBlank ·) := by
  rw [List.all_eq_true]
  constructor
  · intro h
    exact ⟨h.ne_nil, by simpa using h.not_blank⟩
  · intro h
    exact ⟨h.1, by simpa using h.2⟩

/-- The pieces of a text hold its characters, except for those at which it is cut. -/
theorem exists_mem_splitOnP_iff {p : Char → Bool} :
    (∃ w ∈ cs.splitOnP p, c ∈ w) ↔ c ∈ cs ∧ p c = false := by
  induction cs with
  | nil => simp
  | cons x cs ih =>
    rw [List.splitOnP_cons_eq_if_modifyHead]
    by_cases hx : p x
    · -- a cut adds an empty piece
      have hne (hp : p c = false) : c ≠ x := by
        rintro rfl
        simp [hx] at hp
      simp only [if_pos hx, List.mem_cons, exists_eq_or_imp, List.not_mem_nil, false_or, ih]
      exact and_congr_left fun hp => (or_iff_right (hne hp)).symm
    · -- any other character goes to the first piece
      obtain ⟨piece, rest, hsplit⟩ := List.exists_cons_of_ne_nil (List.splitOnP_ne_nil p cs)
      rw [hsplit] at ih
      simp only [List.mem_cons, exists_eq_or_imp] at ih
      simp only [if_neg hx, hsplit, List.modifyHead_cons, List.mem_cons, exists_eq_or_imp, or_assoc,
        ih]
      constructor
      · intro h
        rcases h with rfl | ⟨hc, hp⟩
        · exact ⟨Or.inl rfl, by simpa using hx⟩
        · exact ⟨Or.inr hc, hp⟩
      · intro ⟨hc, hp⟩
        exact hc.imp id fun hc => ⟨hc, hp⟩

theorem isWord_of_mem_words (h : w ∈ words cs) : IsWord w := by
  obtain ⟨hsplit, hne⟩ := List.mem_filter.mp h
  exact ⟨by simpa using hne, fun c hc => (exists_mem_splitOnP_iff.mp ⟨w, hsplit, hc⟩).2⟩

/-- The words of a text hold its characters, except for the blanks. -/
theorem exists_mem_words_iff : (∃ w ∈ words cs, c ∈ w) ↔ c ∈ cs ∧ isBlank c = false := by
  rw [← exists_mem_splitOnP_iff]
  refine exists_congr fun w => ?_
  rw [words, List.mem_filter, and_assoc]
  refine and_congr_right fun _ => ?_
  -- a piece with a character is not empty
  refine and_iff_right_of_imp fun hc => ?_
  simpa using List.ne_nil_of_mem hc

/-- A text without words is blank. -/
theorem words_eq_nil_iff : words cs = [] ↔ cs.all isBlank := by
  rw [List.all_eq_true]
  constructor
  · intro h c hc
    cases hblank : isBlank c with
    | true => rfl
    | false =>
      obtain ⟨w, hw, -⟩ := exists_mem_words_iff.mpr ⟨hc, hblank⟩
      simp [h] at hw
  · intro h
    rw [List.eq_nil_iff_forall_not_mem]
    intro w hw
    obtain ⟨c, hc⟩ := List.exists_mem_of_ne_nil w (isWord_of_mem_words hw).ne_nil
    obtain ⟨hmem, hblank⟩ := exists_mem_words_iff.mp ⟨w, hw, hc⟩
    exact absurd (h c hmem) (by simp [hblank])

theorem words_of_isWord (h : IsWord w) : words w = [w] := by
  rw [words, List.splitOnP_eq_singleton h.not_blank]
  simp [h.ne_nil]

/-- A blank ends a word. -/
theorem words_append_cons (hc : isBlank c) (a b : List Char) :
    words (a ++ c :: b) = words a ++ words b := by
  rw [words, List.splitOnP_append_cons a b hc, List.filter_append]
  rfl

/-- Words that are joined by single spaces can be read back. -/
theorem words_intercalate (h : ∀ w ∈ parts, IsWord w) :
    words ([' '].intercalate parts) = parts := by
  induction parts with
  | nil => rfl
  | cons w parts ih =>
    obtain ⟨hw, hparts⟩ := List.forall_mem_cons.mp h
    cases parts with
    | nil =>
      rw [List.intercalate_singleton]
      exact words_of_isWord hw
    | cons v parts =>
      rw [List.intercalate_cons_cons, List.append_assoc, List.singleton_append,
        words_append_cons rfl, words_of_isWord hw, ih hparts, List.singleton_append]

end CodeGraph.Text
