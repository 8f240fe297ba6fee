import CodeGraph.Text.LowerCase

/-!
# Lower case of joined texts

Only the image of a capital sigma depends on what stands around it. So a text keeps its lower-case
form when another one is appended, unless it holds a sigma, which shows in both forms.

## Main results

* `Text.exists_lower_append` — the lower-case form of a text with an ending
-/

namespace CodeGraph.Text

variable {before a b cs : List Char}

/-- The text holds a small sigma of either form. -/
def HasSigma (cs : List Char) : Prop :=
  'σ' ∈ cs ∨ 'ς' ∈ cs

theorem HasSigma.append_left (h : HasSigma b) (a : List Char) : HasSigma (a ++ b) :=
  h.imp (List.mem_append_right a) (List.mem_append_right a)

theorem hasSigma_lowerSigma (before after : List Char) :
    HasSigma (lowerSigma before after :: cs) := by
  unfold lowerSigma
  split
  · exact Or.inr List.mem_cons_self
  · exact Or.inl List.mem_cons_self

/-- What stands after a text without capital sigma does not matter to its lower-case form. -/
theorem lowerAfter_append_of_notMem (h : 'Σ' ∉ a) :
    lowerAfter before (a ++ b) = lowerAfter before a ++ lowerAfter (a.reverse ++ before) b := by
  induction a generalizing before with
  | nil => rfl
  | cons c a ih =>
    obtain ⟨hc, ha⟩ := not_or.mp (mt List.mem_cons.mpr h)
    have hsigma : (c == 'Σ') = false := beq_eq_false_iff_ne.mpr (Ne.symm hc)
    simp only [List.cons_append, lowerAfter, hsigma, ih ha]
    simp [List.append_assoc]

/-- The ending is lowered as it stands, and a capital sigma before it leaves a small one. -/
theorem exists_lowerAfter_append (before a b : List Char) :
    ∃ stem, lowerAfter before (a ++ b) = stem ++ lowerAfter (a.reverse ++ before) b ∧
      ('Σ' ∈ a → HasSigma stem) := by
  induction a generalizing before with
  | nil => exact ⟨[], rfl, by simp⟩
  | cons c a ih =>
    obtain ⟨stem, hstem, hsigma⟩ := ih (c :: before)
    have hbefore : (c :: a).reverse ++ before = a.reverse ++ (c :: before) := by simp
    rw [List.cons_append, lowerAfter, hstem, hbefore, ← List.append_assoc]
    -- the new part of the stem is the image of `c`, whatever it looks like
    refine ⟨_, rfl, fun hmem => ?_⟩
    by_cases hc : c = 'Σ'
    · rw [if_pos (beq_iff_eq.mpr hc), List.singleton_append]
      exact hasSigma_lowerSigma _ _
    · have ha : 'Σ' ∈ a := by
        rcases List.mem_cons.mp hmem with heq | ha
        · exact absurd heq.symm hc
        · exact ha
      exact (hsigma ha).append_left _

theorem hasSigma_lower (h : 'Σ' ∈ a) : HasSigma (lower a) := by
  obtain ⟨stem, hstem, hsigma⟩ := exists_lowerAfter_append [] a []
  rw [List.append_nil] at hstem
  rw [lower, hstem]
  simpa [lowerAfter] using hsigma h

/-- An ending without capitals is appended to the lower-case form of a text, unless the text holds a
sigma: then a small one stands in its form with the ending and without it. -/
theorem exists_lower_append (hb : ∀ before, lowerAfter before b = b) (a : List Char) :
    ∃ stem, lower (a ++ b) = stem ++ b ∧
      (stem = lower a ∨ HasSigma stem ∧ HasSigma (lower a)) := by
  by_cases h : 'Σ' ∈ a
  · obtain ⟨stem, hstem, hsigma⟩ := exists_lowerAfter_append [] a b
    rw [hb] at hstem
    exact ⟨stem, hstem, Or.inr ⟨hsigma h, hasSigma_lower h⟩⟩
  · refine ⟨lower a, ?_, Or.inl rfl⟩
    rw [lower, lowerAfter_append_of_notMem h, hb, lower]

end CodeGraph.Text
