import CodeGraph.Position
import Mathlib.Data.List.DropRight

/-!
# Where texts end

As long as no line and no column overflows, the position behind a text can be read off its line
feeds, and the positions of its characters ascend. A text cut in two has the positions of its parts,
one after the other.

## Main definitions

* `Position.Passes`, `Position.Fits` — no position on the way through a text overflows
* `Position.Before` — the order of the positions in a file
* `Position.scan` — one step of a scan that keeps two positions
* `Position.places` — the positions of the characters of a text

## Main results

* `Position.Passes.line_after`, `Position.Passes.column_after` — line and column behind a text
* `Position.foldl_scan` — a scan of a text comes to both positions
* `Position.Fits.pairwise_places` — the characters of a text stand one after the other
-/

namespace CodeGraph.Position

variable {p q x : Position} {c : Char} {cs a b : List Char}

/-! ### Overflow -/

/-- The position behind `c` at `p` has a line and a column that a word can hold. -/
def Counts (p : Position) (c : Char) : Prop :=
  if c = '\n' then p.line.toNat + 1 < UInt32.size else p.column.toNat + 1 < UInt32.size

instance : Decidable (p.Counts c) :=
  inferInstanceAs (Decidable (if c = '\n' then _ else _))

/-- No position on the way through a text overflows, that behind the text included. -/
def Passes (p : Position) : List Char → Prop
  | [] => True
  | c :: cs => p.Counts c ∧ (p.next c).Passes cs

instance decidablePasses (p : Position) : (cs : List Char) → Decidable (p.Passes cs)
  | [] => .isTrue trivial
  | c :: cs =>
    have := decidablePasses (p.next c) cs
    inferInstanceAs (Decidable (p.Counts c ∧ (p.next c).Passes cs))

/-- No position of a character of the text overflows. What is behind the text may. -/
def Fits (p : Position) (cs : List Char) : Prop :=
  p.Passes cs.dropLast

instance : Decidable (p.Fits cs) :=
  inferInstanceAs (Decidable (p.Passes cs.dropLast))

theorem line_next (h : p.Counts c) :
    (p.next c).line.toNat = p.line.toNat + if c = '\n' then 1 else 0 := by
  by_cases hc : c = '\n'
  · rw [Counts, if_pos hc] at h
    simp only [next, hc, beq_self_eq_true, if_true, UInt32.toNat_add, UInt32.toNat_one]
    exact Nat.mod_eq_of_lt h
  · simp [next, hc]

theorem column_next (h : p.Counts c) :
    (p.next c).column.toNat = if c = '\n' then 1 else p.column.toNat + 1 := by
  by_cases hc : c = '\n'
  · simp [next, hc]
  · rw [Counts, if_neg hc] at h
    simp only [next, beq_iff_eq, hc, if_false, UInt32.toNat_add, UInt32.toNat_one]
    exact Nat.mod_eq_of_lt h

/-! ### The position behind a text -/

@[simp] theorem after_nil (p : Position) : p.after [] = p :=
  rfl

@[simp] theorem after_cons (p : Position) (c : Char) (cs : List Char) :
    p.after (c :: cs) = (p.next c).after cs :=
  rfl

theorem after_append (p : Position) (a b : List Char) : p.after (a ++ b) = (p.after a).after b :=
  List.foldl_append

theorem passes_append : p.Passes (a ++ b) ↔ p.Passes a ∧ (p.after a).Passes b := by
  induction a generalizing p with
  | nil => simp [Passes]
  | cons c a ih => rw [List.cons_append, Passes, Passes, ih, after_cons, and_assoc]

theorem passes_concat : p.Passes (cs ++ [c]) ↔ p.Passes cs ∧ (p.after cs).Counts c := by
  simp [passes_append, Passes]

theorem fits_concat : p.Fits (cs ++ [c]) ↔ p.Passes cs := by
  rw [Fits, List.dropLast_concat]

theorem Passes.fits (h : p.Passes cs) : p.Fits cs := by
  rcases List.eq_nil_or_concat' cs with rfl | ⟨cs, c, rfl⟩
  · exact h
  · exact fits_concat.mpr (passes_concat.mp h).1

theorem Fits.of_append (h : p.Fits (a ++ b)) : p.Fits a ∧ (p.after a).Fits b := by
  rcases List.eq_nil_or_concat' b with rfl | ⟨b, c, rfl⟩
  · rw [List.append_nil] at h
    exact ⟨h, trivial⟩
  · rw [← List.append_assoc, fits_concat, passes_append] at h
    exact ⟨h.1.fits, fits_concat.mpr h.2⟩

/-- Each line feed begins a line. -/
theorem Passes.line_after (h : p.Passes cs) :
    (p.after cs).line.toNat = p.line.toNat + cs.count '\n' := by
  induction cs generalizing p with
  | nil => rfl
  | cons c cs ih =>
    obtain ⟨hc, hcs⟩ := h
    rw [after_cons, ih hcs, line_next hc, List.count_cons]
    by_cases hfeed : c = '\n'
    · simp only [hfeed, beq_self_eq_true, if_true]
      omega
    · simp [hfeed]

/-- The last line feed begins the line in which columns are counted. -/
theorem Passes.column_after (h : p.Passes cs) : (p.after cs).column.toNat =
    if '\n' ∈ cs then (cs.rtakeWhile (· ≠ '\n')).length + 1 else p.column.toNat + cs.length := by
  -- what stands after the last line feed grows at its end
  induction cs using List.reverseRecOn with
  | nil => rfl
  | append_singleton cs c ih =>
    obtain ⟨hcs, hc⟩ := passes_concat.mp h
    rw [after_append, after_cons, after_nil, column_next hc, ih hcs, List.rtakeWhile_concat]
    by_cases hfeed : c = '\n'
    · simp [hfeed]
    · have hother : '\n' ≠ c := fun h => hfeed h.symm
      by_cases hmem : '\n' ∈ cs
      · simp [hfeed, hmem]
      · simp only [hfeed, hother, hmem, List.mem_append, List.mem_singleton, or_self, if_false,
          List.length_append, List.length_singleton]
        omega

/-! ### The order of positions -/

/-- The position `p` stands before `q` in the file. -/
def Before (p q : Position) : Prop :=
  p.line < q.line ∨ p.line = q.line ∧ p.column < q.column

theorem Before.trans (hpq : p.Before q) (hqx : q.Before x) : p.Before x := by
  rcases hpq with hline | ⟨hline, hcolumn⟩
  · rcases hqx with hline' | ⟨hline', -⟩
    · exact Or.inl (UInt32.lt_trans hline hline')
    · exact Or.inl (hline' ▸ hline)
  · rcases hqx with hline' | ⟨hline', hcolumn'⟩
    · exact Or.inl (hline ▸ hline')
    · exact Or.inr ⟨hline.trans hline', UInt32.lt_trans hcolumn hcolumn'⟩

theorem not_before_self (p : Position) : ¬ p.Before p := by
  rintro (hline | ⟨-, hcolumn⟩)
  · exact UInt32.lt_irrefl _ hline
  · exact UInt32.lt_irrefl _ hcolumn

theorem Before.not_before (h : p.Before q) : ¬ q.Before p :=
  fun h' => not_before_self p (h.trans h')

theorem before_next (h : p.Counts c) : p.Before (p.next c) := by
  have hline := line_next h
  have hcolumn := column_next h
  by_cases hc : c = '\n'
  · rw [if_pos hc] at hline
    exact Or.inl (UInt32.lt_iff_toNat_lt.mpr (hline ▸ Nat.lt_succ_self _))
  · rw [if_neg hc] at hline hcolumn
    exact Or.inr ⟨(UInt32.toNat_inj.mp hline).symm,
      UInt32.lt_iff_toNat_lt.mpr (hcolumn ▸ Nat.lt_succ_self _)⟩

/-! ### The positions of characters -/

/-- The positions of the characters of a text that starts at `p`. -/
def places (p : Position) : List Char → List Position
  | [] => []
  | c :: cs => p :: (p.next c).places cs

theorem places_append (p : Position) (a b : List Char) :
    p.places (a ++ b) = p.places a ++ (p.after a).places b := by
  induction a generalizing p with
  | nil => rfl
  | cons c a ih => rw [List.cons_append, places, places, ih, after_cons, List.cons_append]

theorem places_concat (p : Position) (cs : List Char) (c : Char) :
    p.places (cs ++ [c]) = p.places cs ++ [p.after cs] :=
  places_append p cs [c]

theorem ofLast_concat (p : Position) (cs : List Char) (c : Char) :
    p.ofLast (cs ++ [c]) = p.after cs := by
  rw [ofLast, List.dropLast_concat]

theorem ofLast_append (p : Position) (a : List Char) (h : b ≠ []) :
    p.ofLast (a ++ b) = (p.after a).ofLast b := by
  rw [ofLast, List.dropLast_append_of_ne_nil h, after_append, ofLast]

/-- One step of a scan, which keeps two positions: that of the last character that it has read, and
that behind it. -/
def scan (ends : Position × Position) (c : Char) : Position × Position :=
  (ends.2, ends.2.next c)

/-- The first position of a scan stays one character behind the second, and comes to that of the
last character of the text. -/
theorem foldl_scan (p : Position) (cs : List Char) :
    cs.foldl scan (p, p) = (p.ofLast cs, p.after cs) := by
  induction cs using List.reverseRecOn with
  | nil => rfl
  | append_singleton cs c ih =>
    rw [List.foldl_append, ih, ofLast_concat, after_append]
    rfl

theorem start_mem_places (h : cs ≠ []) : p ∈ p.places cs := by
  obtain ⟨c, cs, rfl⟩ := List.exists_cons_of_ne_nil h
  exact List.mem_cons_self

theorem ofLast_mem_places (h : cs ≠ []) : p.ofLast cs ∈ p.places cs := by
  obtain ⟨cs, c, rfl⟩ := (List.eq_nil_or_concat' cs).resolve_left h
  rw [places_concat, ofLast_concat]
  exact List.mem_append_right _ (List.mem_singleton_self _)

theorem Passes.before_after (h : p.Passes cs) (hx : x ∈ p.places cs) : x.Before (p.after cs) := by
  induction cs using List.reverseRecOn with
  | nil => cases hx
  | append_singleton cs c ih =>
    obtain ⟨hcs, hc⟩ := passes_concat.mp h
    rw [places_concat, List.mem_append, List.mem_singleton] at hx
    rw [after_append]
    rcases hx with hx | rfl
    · exact (ih hcs hx).trans (before_next hc)
    · exact before_next hc

/-- The characters of a text stand one after the other. -/
theorem Fits.pairwise_places (h : p.Fits cs) : (p.places cs).Pairwise Before := by
  induction cs using List.reverseRecOn with
  | nil => exact List.Pairwise.nil
  | append_singleton cs c ih =>
    have hcs := fits_concat.mp h
    rw [places_concat, List.pairwise_append]
    refine ⟨ih hcs.fits, List.pairwise_singleton _ _, fun x hx y hy => ?_⟩
    obtain rfl := List.mem_singleton.mp hy
    exact hcs.before_after hx

/-- The first character stands where the text starts, the others stand behind it. -/
theorem Fits.eq_or_before_of_mem_places (h : p.Fits cs) (hx : x ∈ p.places cs) :
    x = p ∨ p.Before x := by
  cases cs with
  | nil => cases hx
  | cons c cs =>
    rcases List.mem_cons.mp hx with rfl | hx
    · exact Or.inl rfl
    · exact Or.inr ((List.pairwise_cons.mp h.pairwise_places).1 x hx)

/-- The last character stands where the text ends, the others stand before it. -/
theorem Fits.eq_or_before_ofLast (h : p.Fits cs) (hx : x ∈ p.places cs) :
    x = p.ofLast cs ∨ x.Before (p.ofLast cs) := by
  rcases List.eq_nil_or_concat' cs with rfl | ⟨cs, c, rfl⟩
  · cases hx
  · rw [places_concat, List.mem_append, List.mem_singleton] at hx
    rw [ofLast_concat]
    rcases hx with hx | rfl
    · exact Or.inr ((fits_concat.mp h).before_after hx)
    · exact Or.inl rfl

end CodeGraph.Position
