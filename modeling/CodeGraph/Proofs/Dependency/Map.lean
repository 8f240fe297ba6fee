import CodeGraph.Dependency
import CodeGraph.Proofs.Catalog
import Mathlib.Data.List.Nodup

/-!
# Maps of references

A map of pairs has one entry for each key, by ascending number, and lists under a key the references
that have it, in the order in which they were given. An entry is found by halving.

## Main definitions

* `DependencyMap.Ascending` — the numbers of the keys ascend strictly
* `DependencyMap.Lists` — an edge is listed under a key
* `DependencyMap.pairs` — the references of the entries, each with its key

## Main results

* `DependencyMap.search_eq_some_iff` — halving finds the entry of a number
* `DependencyMap.perm_pairs_ofPairs` — a map holds the pairs it is made of
* `DependencyMap.eq_of_mem_ofPairs` — what is listed under a key, in which order
-/

namespace CodeGraph.DependencyMap

variable {id : EntityId} {k : Entity} {e : Edge} {es : List Edge} {ps : List (Entity × Edge)}
  {entries : List (Entity × List Edge)} {g : Entity × List Edge}

/-- The numbers of the keys ascend strictly. -/
def Ascending (entries : List (Entity × List Edge)) : Prop :=
  entries.Pairwise fun a b => a.1.id.value < b.1.id.value

/-- The references of the entries, each with its key. -/
def pairs (entries : List (Entity × List Edge)) : List (Entity × Edge) :=
  entries.flatMap fun g => g.2.map (g.1, ·)

/-- The map lists the edge under the key. -/
def Lists (m : DependencyMap) (k : Entity) (e : Edge) : Prop :=
  ∃ es, (k, es) ∈ m.entries ∧ e ∈ es

theorem mem_pairs_iff : (k, e) ∈ pairs entries ↔ ∃ es, (k, es) ∈ entries ∧ e ∈ es := by
  simp [pairs]

theorem map_snd_pairs (entries : List (Entity × List Edge)) :
    (pairs entries).map (·.2) = entries.flatMap (·.2) := by
  simp [pairs, List.map_flatMap, Function.comp_def]

/-! ### Search -/

/-- The references are listed under the number. -/
def Files (entries : List (Entity × List Edge)) (id : EntityId) (es : List Edge) : Prop :=
  ∃ k, k.id = id ∧ (k, es) ∈ entries

section Halves

variable {early later : List (Entity × List Edge)} {refs : List Edge}

/-- A number below that of an entry is filed before it. -/
theorem files_early_iff (h : Ascending (early ++ (k, refs) :: later))
    (hlt : id.value < k.id.value) :
    Files (early ++ (k, refs) :: later) id es ↔ Files early id es := by
  obtain ⟨-, hlater, -⟩ := List.pairwise_append.mp h
  refine exists_congr fun key => and_congr_right fun hkey => ?_
  subst hkey
  rw [List.mem_append]
  refine or_iff_left fun hmem => ?_
  rcases List.mem_cons.mp hmem with heq | hmem
  · cases heq
    exact UInt32.lt_irrefl _ hlt
  · have hafter := (List.pairwise_cons.mp hlater).1 _ hmem
    exact UInt32.lt_irrefl _ (UInt32.lt_trans hlt hafter)

theorem files_middle_iff (h : Ascending (early ++ (k, refs) :: later)) :
    Files (early ++ (k, refs) :: later) k.id es ↔ refs = es := by
  have hmem : (k, refs) ∈ early ++ (k, refs) :: later :=
    List.mem_append_right _ List.mem_cons_self
  have hnodup : ((early ++ (k, refs) :: later).map (·.1.id)).Nodup :=
    List.pairwise_map.mpr (h.imp fun hlt heq => UInt32.ne_of_lt hlt (congrArg EntityId.value heq))
  constructor
  · intro ⟨key, hkey, hfound⟩
    exact congrArg Prod.snd (List.inj_on_of_nodup_map hnodup hmem hfound hkey.symm)
  · rintro rfl
    exact ⟨k, rfl, hmem⟩

/-- A number above that of an entry is filed after it. -/
theorem files_later_iff (h : Ascending (early ++ (k, refs) :: later))
    (hlt : k.id.value < id.value) :
    Files (early ++ (k, refs) :: later) id es ↔ Files later id es := by
  obtain ⟨-, -, hbefore⟩ := List.pairwise_append.mp h
  refine exists_congr fun key => and_congr_right fun hkey => ?_
  subst hkey
  rw [List.mem_append, List.mem_cons]
  constructor
  · rintro (hmem | heq | hmem)
    · have hearly := hbefore _ hmem _ List.mem_cons_self
      exact absurd (UInt32.lt_trans hlt hearly) (UInt32.lt_irrefl _)
    · cases heq
      exact absurd hlt (UInt32.lt_irrefl _)
    · exact hmem
  · exact fun hmem => Or.inr (Or.inr hmem)

end Halves

theorem eq_take_append {later : List (Entity × List Edge)} {n : Nat}
    (h : entries.drop n = g :: later) : entries = entries.take n ++ g :: later := by
  rw [← h, List.take_append_drop]

/-- Halving finds the entry of a number among ascending ones. -/
theorem search_eq_some_iff (h : Ascending entries) :
    search id entries = some es ↔ Files entries id es := by
  fun_induction search id entries with
  -- the entry in the middle is below, at or above the number, and the other half is searched
  | case1 entries half hsplit =>
    have hlength := congrArg List.length hsplit
    have hnil : entries = [] := List.eq_nil_of_length_eq_zero (by
      simp only [List.length_drop, List.length_nil] at hlength
      omega)
    simp [hnil, Files]
  | case2 entries half key refs later hsplit hcmp ih =>
    have hentries := eq_take_append hsplit
    rw [hentries] at h
    conv_rhs => rw [hentries]
    rw [ih (List.pairwise_append.mp h).1, files_early_iff h (EntityId.compare_eq_lt_iff.mp hcmp)]
  | case3 entries half key refs later hsplit hcmp =>
    have hentries := eq_take_append hsplit
    obtain rfl := Std.compare_eq_iff_eq.mp hcmp
    rw [hentries] at h ⊢
    rw [files_middle_iff h, Option.some.injEq]
  | case4 entries half key refs later hsplit hcmp ih =>
    have hentries := eq_take_append hsplit
    have hlt : compare key.id id = .lt := Std.OrientedCmp.lt_of_gt hcmp
    rw [hentries] at h
    conv_rhs => rw [hentries]
    rw [ih (List.pairwise_cons.mp (List.pairwise_append.mp h).2.1).2,
      files_later_iff h (EntityId.compare_eq_lt_iff.mp hlt)]

/-! ### Runs -/

/-- The keys are told apart by their numbers. -/
def Keyed (ps : List (Entity × Edge)) : Prop :=
  ∀ p ∈ ps, ∀ q ∈ ps, p.1.id = q.1.id → p.1 = q.1

theorem Keyed.tail {p : Entity × Edge} (h : Keyed (p :: ps)) : Keyed ps :=
  fun a ha b hb => h a (List.mem_cons_of_mem _ ha) b (List.mem_cons_of_mem _ hb)

/-- A run is not empty. -/
theorem ne_nil_of_mem_gatherRuns (hg : g ∈ gatherRuns ps) : g.2 ≠ [] := by
  induction ps with
  | nil => simp [gatherRuns] at hg
  | cons p ps ih =>
    rw [gatherRuns] at hg
    split at hg
    · simp only [List.mem_singleton] at hg
      simp [hg]
    next next es groups hruns =>
      split at hg
      · rcases List.mem_cons.mp hg with rfl | hg
        · simp
        · exact ih (hruns ▸ List.mem_cons_of_mem _ hg)
      · rcases List.mem_cons.mp hg with rfl | hg
        · simp
        · exact ih (hruns ▸ hg)

/-- The runs hold the pairs they are gathered from, in their order. -/
theorem pairs_gatherRuns (h : Keyed ps) : pairs (gatherRuns ps) = ps := by
  induction ps with
  | nil => rfl
  | cons p ps ih =>
    have htail := ih h.tail
    rw [gatherRuns]
    split
    next hruns => simpa [pairs, hruns] using htail
    next next es groups hruns =>
      rw [hruns] at htail
      split
      next hid =>
        -- the pair joins the run of `next`, whose key is its own since numbers tell keys apart
        have hes : es ≠ [] := ne_nil_of_mem_gatherRuns (hruns ▸ List.mem_cons_self)
        obtain ⟨e, rest, rfl⟩ := List.exists_cons_of_ne_nil hes
        have hmem : (next, e) ∈ ps := htail ▸ by simp [pairs]
        have hkey : p.1 = next :=
          h p List.mem_cons_self (next, e) (List.mem_cons_of_mem _ hmem) hid
        have hp : (next, p.2) = p := by rw [← hkey]
        simpa [pairs, hkey, hp] using htail
      · simpa [pairs] using htail

theorem exists_mem_of_mem_gatherRuns (h : Keyed ps) (hg : g ∈ gatherRuns ps) :
    ∃ e, (g.1, e) ∈ ps := by
  obtain ⟨e, rest, hes⟩ := List.exists_cons_of_ne_nil (ne_nil_of_mem_gatherRuns hg)
  refine ⟨e, ?_⟩
  rw [← pairs_gatherRuns h, mem_pairs_iff]
  exact ⟨g.2, hg, hes ▸ List.mem_cons_self⟩

/-- The runs of pairs in order have strictly ascending keys. -/
theorem ascending_gatherRuns (h : Keyed ps)
    (hordered : ps.Pairwise fun a b => a.1.id.value ≤ b.1.id.value) :
    Ascending (gatherRuns ps) := by
  induction ps with
  | nil => exact List.Pairwise.nil
  | cons p ps ih =>
    obtain ⟨hle, hordered⟩ := List.pairwise_cons.mp hordered
    have htail := ih h.tail hordered
    -- the keys of the runs are keys of later pairs
    have hfirst : ∀ g ∈ gatherRuns ps, p.1.id.value ≤ g.1.id.value := by
      intro g hg
      obtain ⟨e, he⟩ := exists_mem_of_mem_gatherRuns h.tail hg
      exact hle _ he
    unfold Ascending at htail ⊢
    rw [gatherRuns]
    split
    · exact List.pairwise_singleton _ _
    next next es groups hruns =>
      rw [hruns] at htail hfirst
      obtain ⟨hnext, hgroups⟩ := List.pairwise_cons.mp htail
      split
      next hid => exact List.pairwise_cons.mpr ⟨fun g hg => hid ▸ hnext g hg, hgroups⟩
      next hid =>
        have hlt : p.1.id.value < next.id.value :=
          UInt32.lt_of_le_of_ne (hfirst _ List.mem_cons_self)
            fun heq => hid (Catalog.value_inj.mp heq)
        refine List.pairwise_cons.mpr ⟨fun g hg => ?_, htail⟩
        rcases List.mem_cons.mp hg with rfl | hg
        · exact hlt
        · exact UInt32.lt_trans hlt (hnext g hg)

/-- What an entry lists are the pairs with its key. -/
theorem filter_pairs (h : Ascending entries) (hmem : (k, es) ∈ entries) :
    (pairs entries).filter (·.1.id = k.id) = es.map (k, ·) := by
  induction entries with
  | nil => simp at hmem
  | cons g entries ih =>
    obtain ⟨hlt, hrest⟩ := List.pairwise_cons.mp h
    have hsplit : pairs (g :: entries) = g.2.map (g.1, ·) ++ pairs entries := rfl
    rw [hsplit, List.filter_append]
    rcases List.mem_cons.mp hmem with rfl | hmem
    · have hother : (pairs entries).filter (·.1.id = k.id) = [] := by
        refine List.filter_eq_nil_iff.mpr fun p hp => ?_
        obtain ⟨fs, hfs, -⟩ := mem_pairs_iff.mp hp
        have hne := UInt32.ne_of_lt (hlt _ hfs)
        simpa using fun heq => hne (congrArg EntityId.value heq.symm)
      rw [hother, List.append_nil]
      simp
    · have hne : g.1.id ≠ k.id := fun heq =>
        UInt32.ne_of_lt (hlt _ hmem) (congrArg EntityId.value heq)
      have hother : (g.2.map (g.1, ·)).filter (·.1.id = k.id) = [] :=
        List.filter_eq_nil_iff.mpr fun p hp => by
          obtain ⟨e, -, rfl⟩ := List.mem_map.mp hp
          simpa using hne
      rw [hother, List.nil_append]
      exact ih hrest hmem

/-! ### The map of pairs -/

theorem inOrder_iff {a b : Entity × Edge} : inOrder a b ↔ a.1.id.value ≤ b.1.id.value :=
  EntityId.compare_isLE_iff

theorem inOrder_trans (a b c : Entity × Edge) (hab : inOrder a b) (hbc : inOrder b c) :
    inOrder a c :=
  Catalog.inOrder_trans a.1 b.1 c.1 hab hbc

theorem inOrder_total (a b : Entity × Edge) : inOrder a b || inOrder b a :=
  Catalog.inOrder_total a.1 b.1

/-- Sorting by key keeps the order of the pairs of one key. -/
theorem filter_mergeSort (ps : List (Entity × Edge)) (id : EntityId) :
    (ps.mergeSort inOrder).filter (·.1.id = id) = ps.filter (·.1.id = id) := by
  -- pairs of one key are tied, so they are in order already and the sort leaves them as they are
  have htied : (ps.filter (·.1.id = id)).Pairwise fun a b => inOrder a b := by
    refine List.pairwise_of_forall_mem_list fun a ha b hb => ?_
    have haid : a.1.id = id := by simpa using (List.mem_filter.mp ha).2
    have hbid : b.1.id = id := by simpa using (List.mem_filter.mp hb).2
    rw [inOrder_iff, haid, hbid]
    exact UInt32.le_refl _
  have hsub : (ps.filter (·.1.id = id)).Sublist ((ps.mergeSort inOrder).filter (·.1.id = id)) := by
    have hsorted := List.sublist_mergeSort inOrder_trans inOrder_total htied List.filter_sublist
    simpa using hsorted.filter (·.1.id = id)
  -- a sublist of the same length is the whole list
  have hlength := ((List.mergeSort_perm ps inOrder).filter (·.1.id = id)).length_eq
  exact (hsub.eq_of_length hlength.symm).symm

theorem keyed_mergeSort (h : Keyed ps) : Keyed (ps.mergeSort inOrder) := by
  intro p hp q hq
  exact h p (List.mem_mergeSort.mp hp) q (List.mem_mergeSort.mp hq)

theorem ascending_ofPairs (h : Keyed ps) : Ascending (ofPairs ps).entries :=
  ascending_gatherRuns (keyed_mergeSort h)
    ((List.pairwise_mergeSort inOrder_trans inOrder_total ps).imp inOrder_iff.mp)

/-- A map holds the pairs it is made of. -/
theorem perm_pairs_ofPairs (h : Keyed ps) : (pairs (ofPairs ps).entries).Perm ps := by
  rw [ofPairs, pairs_gatherRuns (keyed_mergeSort h)]
  exact List.mergeSort_perm ps inOrder

/-- Under a key a map lists the references that have it, in the order in which they are given. -/
theorem eq_of_mem_ofPairs (h : Keyed ps) (hmem : (k, es) ∈ (ofPairs ps).entries) :
    es = (ps.filter (·.1.id = k.id)).map (·.2) := by
  have hfilter := filter_pairs (ascending_ofPairs h) hmem
  rw [ofPairs, pairs_gatherRuns (keyed_mergeSort h), filter_mergeSort] at hfilter
  rw [hfilter, List.map_map]
  exact (List.map_id es).symm

end CodeGraph.DependencyMap
