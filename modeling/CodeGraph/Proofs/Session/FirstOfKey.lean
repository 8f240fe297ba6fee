import CodeGraph.Session
import Mathlib.Data.List.Find

/-!
# The first element of each key

Of the elements of a list that have one key, the first is kept, unless the key has been seen before.

## Main results

* `mem_firstOfKey_iff` — what is kept for a key is the first element with this key
* `firstOfKey_append` — what is kept of a list in two parts
* `pairwise_firstOfKey` — what is kept is in order of first occurrences
-/

namespace CodeGraph

variable {α κ : Type} [DecidableEq κ] {key : α → κ} {seen seen' : List κ} {xs : List α} {x : α}

/-- What is kept for a key is the first element with this key. -/
theorem mem_firstOfKey_iff : x ∈ firstOfKey key seen xs ↔
    key x ∉ seen ∧ xs.find? (key · = key x) = some x := by
  induction xs generalizing seen with
  | nil => simp [firstOfKey]
  | cons y xs ih =>
    rw [firstOfKey]
    by_cases hy : key y = key x
    · -- `y` is the first element with the key of `x`, and what follows it is left out
      rw [List.find?_cons_of_pos (by simpa using hy), Option.some.injEq]
      by_cases hseen : key y ∈ seen
      · rw [if_pos hseen, ih]
        simp [← hy, hseen]
      · rw [if_neg hseen, List.mem_cons, ih]
        simp [← hy, hseen, eq_comm]
    · rw [List.find?_cons_of_neg (by simpa using hy)]
      by_cases hseen : key y ∈ seen
      · rw [if_pos hseen, ih]
      · rw [if_neg hseen, List.mem_cons, ih]
        have hne : x ≠ y := fun heq => hy (heq ▸ rfl)
        simp [hne, Ne.symm hy]

theorem firstOfKey_sublist (key : α → κ) (seen : List κ) (xs : List α) :
    (firstOfKey key seen xs).Sublist xs := by
  induction xs generalizing seen with
  | nil => exact List.Sublist.slnil
  | cons x xs ih =>
    rw [firstOfKey]
    split
    · exact (ih seen).cons x
    · exact (ih (key x :: seen)).cons_cons x

theorem key_notMem_of_mem_firstOfKey (h : x ∈ firstOfKey key seen xs) : key x ∉ seen :=
  (mem_firstOfKey_iff.mp h).1

/-- Every key is represented. -/
theorem exists_mem_firstOfKey (h : x ∈ xs) (hseen : key x ∉ seen) :
    ∃ y ∈ firstOfKey key seen xs, key y = key x := by
  have hsome : (xs.find? (key · = key x)).isSome := List.find?_isSome.mpr ⟨x, h, by simp⟩
  obtain ⟨y, hy⟩ := Option.isSome_iff_exists.mp hsome
  have hkey : key y = key x := by simpa using List.find?_some hy
  exact ⟨y, mem_firstOfKey_iff.mpr ⟨hkey ▸ hseen, by rwa [hkey]⟩, hkey⟩

theorem nodup_map_firstOfKey (key : α → κ) (seen : List κ) (xs : List α) :
    ((firstOfKey key seen xs).map key).Nodup := by
  induction xs generalizing seen with
  | nil => exact List.nodup_nil
  | cons x xs ih =>
    rw [firstOfKey]
    split
    · exact ih seen
    · rw [List.map_cons, List.nodup_cons]
      refine ⟨fun hmem => ?_, ih (key x :: seen)⟩
      obtain ⟨y, hy, heq⟩ := List.mem_map.mp hmem
      exact key_notMem_of_mem_firstOfKey hy (heq ▸ List.mem_cons_self)

/-- Selecting the first element of each key does not look beyond the key. -/
theorem map_firstOfKey {β : Type} (key : β → κ) (f : α → β) (seen : List κ) (xs : List α) :
    (firstOfKey (fun x => key (f x)) seen xs).map f = firstOfKey key seen (xs.map f) := by
  induction xs generalizing seen with
  | nil => rfl
  | cons x xs ih =>
    rw [firstOfKey, List.map_cons, firstOfKey]
    split
    · exact ih seen
    · rw [List.map_cons, ih (key (f x) :: seen)]

theorem firstOfKey_congr (h : ∀ k, k ∈ seen ↔ k ∈ seen') (xs : List α) :
    firstOfKey key seen xs = firstOfKey key seen' xs := by
  induction xs generalizing seen seen' with
  | nil => rfl
  | cons x xs ih =>
    have hcons : ∀ k, k ∈ key x :: seen ↔ k ∈ key x :: seen' := by
      intro k
      rw [List.mem_cons, List.mem_cons, h k]
    rw [firstOfKey, firstOfKey, ih h, ih hcons]
    simp only [h]

/-- What occurs in a first part is no first occurrence in a second one. -/
theorem firstOfKey_append (key : α → κ) (seen : List κ) (xs ys : List α) :
    firstOfKey key seen (xs ++ ys) = firstOfKey key seen xs ++
      firstOfKey key (seen ++ (firstOfKey key seen xs).map key) ys := by
  induction xs generalizing seen with
  | nil => simp [firstOfKey]
  | cons x xs ih =>
    rw [List.cons_append, firstOfKey, firstOfKey]
    by_cases hx : key x ∈ seen
    · rw [if_pos hx, if_pos hx, ih]
    · rw [if_neg hx, if_neg hx, ih, List.map_cons, List.cons_append]
      congr 2
      refine firstOfKey_congr (fun k => ?_) ys
      simp only [List.mem_cons, List.mem_append]
      exact or_left_comm

/-- Of two first occurrences, the earlier one stands before every occurrence of the later one. -/
theorem pairwise_firstOfKey (key : α → κ) (seen : List κ) (xs : List α) :
    (firstOfKey key seen xs).Pairwise fun x y =>
      ∀ before after, xs = before ++ y :: after → x ∈ before := by
  induction xs generalizing seen with
  | nil => exact List.Pairwise.nil
  | cons z xs ih =>
    -- the first element is no occurrence of what is found later
    have hlater {seen' : List κ} {y : α} (hy : y ∈ firstOfKey key seen' xs) (hz : key z ∈ seen')
        {before after : List α} (hsplit : z :: xs = before ++ y :: after) :
        ∃ rest, before = z :: rest ∧ xs = rest ++ y :: after := by
      cases before with
      | nil =>
        obtain ⟨rfl, -⟩ := List.cons.inj hsplit
        exact absurd hz (key_notMem_of_mem_firstOfKey hy)
      | cons b rest =>
        obtain ⟨rfl, hrest⟩ := List.cons.inj hsplit
        exact ⟨rest, rfl, hrest⟩
    have hxs {seen' : List κ} (hz : key z ∈ seen') :
        (firstOfKey key seen' xs).Pairwise fun x y =>
          ∀ before after, z :: xs = before ++ y :: after → x ∈ before := by
      refine (ih seen').imp_of_mem fun _ hy hbefore before after hsplit => ?_
      obtain ⟨rest, rfl, hrest⟩ := hlater hy hz hsplit
      exact List.mem_cons_of_mem _ (hbefore rest after hrest)
    rw [firstOfKey]
    by_cases hz : key z ∈ seen
    · rw [if_pos hz]
      exact hxs hz
    · rw [if_neg hz]
      refine List.pairwise_cons.mpr ⟨fun y hy before after hsplit => ?_, hxs List.mem_cons_self⟩
      obtain ⟨rest, rfl, -⟩ := hlater hy List.mem_cons_self hsplit
      exact List.mem_cons_self

end CodeGraph
