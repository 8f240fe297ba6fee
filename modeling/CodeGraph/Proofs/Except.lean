import Mathlib.Data.List.Forall2

/-!
# Computations that can fail

A computation of several steps succeeds if each step does.

## Main results

* `Except.bind_eq_ok_iff` — two steps, one after the other
* `Except.mapM_eq_ok_iff` — a step for each element of a list
-/

namespace CodeGraph

variable {ε α β : Type} {x : Except ε α} {f : α → Except ε β} {b : β} {xs : List α} {ys : List β}

theorem Except.bind_eq_ok_iff : x >>= f = .ok b ↔ ∃ a, x = .ok a ∧ f a = .ok b := by
  cases x with
  | error e => simp [bind, Except.bind]
  | ok a => simp [bind, Except.bind]

theorem Except.bind_eq_error_of_imp {γ : Type} {g : α → Except ε γ} {e : ε}
    (h : x >>= f = .error e) (hfg : ∀ a, f a = .error e → g a = .error e) :
    x >>= g = .error e := by
  cases x with
  | error e' =>
    cases h
    rfl
  | ok a => exact hfg a h

theorem Except.map_eq_ok_iff {g : α → β} : x.map g = .ok b ↔ ∃ a, x = .ok a ∧ g a = b := by
  cases x <;> simp [Except.map]

theorem Except.map_eq_error_iff {g : α → β} {e : ε} : x.map g = .error e ↔ x = .error e := by
  cases x <;> simp [Except.map]

/-- All answers of a list are there if each of them is. -/
theorem Except.mapM_eq_ok_iff :
    xs.mapM f = .ok ys ↔ List.Forall₂ (fun x y => f x = .ok y) xs ys := by
  induction xs generalizing ys with
  | nil => cases ys <;> simp [pure, Except.pure]
  | cons x xs ih =>
    simp only [List.mapM_cons, bind_eq_ok_iff, ih, pure, Except.pure, Except.ok.injEq,
      List.forall₂_cons_left_iff]
    constructor
    · rintro ⟨y, hy, ys', hys, rfl⟩
      exact ⟨y, ys', hy, hys, rfl⟩
    · rintro ⟨y, ys', hy, hys, rfl⟩
      exact ⟨y, hy, ys', hys, rfl⟩

theorem Except.mapM_eq_ok {g : α → β} (h : ∀ x ∈ xs, f x = .ok (g x)) :
    xs.mapM f = .ok (xs.map g) := by
  rw [mapM_eq_ok_iff, List.forall₂_map_right_iff, List.forall₂_same]
  exact h

theorem Except.exists_mapM (h : ∀ x ∈ xs, ∃ y, f x = .ok y) : ∃ ys, xs.mapM f = .ok ys := by
  simp only [mapM_eq_ok_iff]
  induction xs with
  | nil => exact ⟨[], .nil⟩
  | cons x xs ih =>
    obtain ⟨hx, hxs⟩ := List.forall_mem_cons.mp h
    obtain ⟨y, hy⟩ := hx
    obtain ⟨ys, hys⟩ := ih hxs
    exact ⟨y :: ys, .cons hy hys⟩

/-- A list has no answers because one of its elements has none. -/
theorem Except.exists_of_mapM_eq_error {e : ε} (h : xs.mapM f = .error e) :
    ∃ x ∈ xs, f x = .error e := by
  induction xs with
  | nil => cases h
  | cons x xs ih =>
    rw [List.mapM_cons] at h
    cases hx : f x with
    | error e' =>
      rw [hx] at h
      cases h
      exact ⟨x, List.mem_cons_self, hx⟩
    | ok y =>
      rw [hx] at h
      cases hxs : xs.mapM f with
      | error e' =>
        rw [hxs] at h
        cases h
        obtain ⟨x', hx', herror⟩ := ih hxs
        exact ⟨x', List.mem_cons_of_mem _ hx', herror⟩
      | ok ys =>
        rw [hxs] at h
        cases h

/-- A list with answers has one for each of its elements. -/
theorem Except.exists_of_mapM_eq_ok {x : α} (h : xs.mapM f = .ok ys) (hx : x ∈ xs) :
    ∃ y ∈ ys, f x = .ok y := by
  have hall := mapM_eq_ok_iff.mp h
  clear h
  induction hall with
  | nil => simp at hx
  | @cons x' y xs ys hxy _ ih =>
    rcases List.mem_cons.mp hx with rfl | hx
    · exact ⟨y, List.mem_cons_self, hxy⟩
    · obtain ⟨y', hy', hxy'⟩ := ih hx
      exact ⟨y', List.mem_cons_of_mem _ hy', hxy'⟩

theorem Except.exists_of_mem_mapM (h : xs.mapM f = .ok ys) (hb : b ∈ ys) :
    ∃ x ∈ xs, f x = .ok b := by
  have hall := mapM_eq_ok_iff.mp h
  clear h
  induction hall with
  | nil => simp at hb
  | @cons x y xs ys hxy _ ih =>
    rcases List.mem_cons.mp hb with rfl | hb
    · exact ⟨x, List.mem_cons_self, hxy⟩
    · obtain ⟨x', hx', hxb⟩ := ih hb
      exact ⟨x', List.mem_cons_of_mem _ hx', hxb⟩

/-- One refusal is all that can come of a list in which nothing is refused for another reason. -/
theorem Except.mapM_eq_error {e : ε} {x : α}
    (h : ∀ x ∈ xs, (∃ y, f x = .ok y) ∨ f x = .error e) (hx : x ∈ xs) (he : f x = .error e) :
    xs.mapM f = .error e := by
  cases hxs : xs.mapM f with
  | error e' =>
    obtain ⟨x', hx', he'⟩ := exists_of_mapM_eq_error hxs
    rcases h x' hx' with ⟨y, hy⟩ | hsame
    · cases hy.symm.trans he'
    · cases hsame.symm.trans he'
      rfl
  | ok ys =>
    obtain ⟨y, -, hy⟩ := exists_of_mapM_eq_ok hxs hx
    cases hy.symm.trans he

end CodeGraph
