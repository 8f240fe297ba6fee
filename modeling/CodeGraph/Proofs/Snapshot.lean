import CodeGraph.Proofs.Edge.Index
import CodeGraph.Snapshot

/-!
# Sound snapshots

A snapshot becomes a database exactly if its entities have distinct numbers and all numbers in its
references and tokens are among them, and no file has two lists of tokens. None of this depends on
the order in which the parts are stored.

## Main definitions

* `Snapshot.IsSound` — what makes a snapshot sound
* `Snapshot.IsReordered` — the same content in another order

## Main results

* `Snapshot.toDatabase_eq_ok_iff` — sound snapshots become databases
* `Snapshot.IsReordered.isSound`, `Snapshot.IsReordered.tokensOf_eq` — the order is lost
-/

namespace CodeGraph

/-- The numbers that the tokens of a file hold are among `ids`, and so is that of the file. -/
def FileTokens.IsKnown (ids : List EntityId) (f : FileTokens) : Prop :=
  f.file ∈ ids ∧ ∀ t ∈ f.tokens, ∀ id, t.entity = some id → id ∈ ids

namespace Snapshot

variable {s s' : Snapshot} {db : Database} {known seen : IdSet} {ids : List EntityId} {n : Nat}
  {rs : List Reference} {fs : List FileTokens}

/-! ### The checks -/

theorem firstRepeat_eq_none_iff :
    firstRepeat seen ids = none ↔ ids.Nodup ∧ ∀ id ∈ ids, id ∉ seen := by
  induction ids generalizing seen with
  | nil => simp [firstRepeat]
  | cons id ids ih =>
    rw [firstRepeat]
    -- what is new is seen from now on, so the rest must be free of it
    by_cases hid : seen.contains id
    · have hmem : id ∈ seen := hid
      simp [hid, hmem]
    · have hnot : id ∉ seen := hid
      rw [if_neg hid, ih, List.nodup_cons, List.forall_mem_cons]
      simp only [Std.TreeSet.mem_insert, Std.compare_eq_iff_eq, not_or]
      constructor
      · intro ⟨hnodup, hfresh⟩
        exact ⟨⟨fun hmem => (hfresh id hmem).1 rfl, hnodup⟩, hnot, fun x hx => (hfresh x hx).2⟩
      · rintro ⟨⟨hnew, hnodup⟩, -, hfresh⟩
        exact ⟨hnodup, fun x hx => ⟨fun heq => hnew (heq ▸ hx), hfresh x hx⟩⟩

theorem checkReferences_eq_ok_iff (hknown : ∀ id, known.contains id ↔ id ∈ ids) :
    checkReferences known n rs = .ok () ↔ ∀ r ∈ rs, r.IsKnown ids := by
  induction rs generalizing n with
  | nil => simp [checkReferences]
  | cons r rs ih =>
    have hroles : (roles r).find? (! known.contains ·.2) = none ↔ r.IsKnown ids := by
      simp [roles, List.find?_eq_none, hknown, Reference.IsKnown]
    rw [checkReferences, List.forall_mem_cons, ← hroles]
    cases hfind : (roles r).find? (! known.contains ·.2) with
    | none => simpa using ih
    | some role => simp

theorem checkLexemes_eq_ok_iff (hknown : ∀ id, known.contains id ↔ id ∈ ids) :
    checkLexemes known seen fs = .ok () ↔ (∀ f ∈ fs, f.IsKnown ids) ∧ (fs.map (·.file)).Nodup ∧
      ∀ f ∈ fs, f.file ∉ seen := by
  induction fs generalizing seen with
  | nil => simp [checkLexemes]
  | cons f fs ih =>
    have htokens : (f.tokens.filterMap (·.entity)).find? (! known.contains ·) = none ↔
        ∀ t ∈ f.tokens, ∀ id, t.entity = some id → id ∈ ids := by
      simp only [List.find?_eq_none, List.mem_filterMap, Bool.not_eq_true', Bool.not_eq_false,
        hknown, forall_exists_index, and_imp]
      exact ⟨fun h t ht id hid => h id t ht hid, fun h id t ht hid => h t ht id hid⟩
    -- the checks of a file come in this order: the file, its tokens, an earlier list of it
    rw [checkLexemes, List.forall_mem_cons, List.map_cons, List.nodup_cons, List.forall_mem_cons]
    by_cases hfile : known.contains f.file
    · have hmem : f.file ∈ ids := (hknown _).mp hfile
      rw [if_neg (by simpa using hfile)]
      cases hfind : (f.tokens.filterMap (·.entity)).find? (! known.contains ·) with
      | some id =>
        have hnot : ¬ f.IsKnown ids := fun h => by simp [htokens.mpr h.2] at hfind
        simp [hnot]
      | none =>
        have hf : f.IsKnown ids := ⟨hmem, htokens.mp hfind⟩
        by_cases hseen : seen.contains f.file
        · have hmem : f.file ∈ seen := hseen
          simp [hseen, hmem]
        · have hnot : f.file ∉ seen := hseen
          simp only [hseen, Bool.false_eq_true, if_false, ih, hf, hnot, true_and,
            not_false_eq_true, Std.TreeSet.mem_insert, Std.compare_eq_iff_eq, not_or,
            List.mem_map, not_exists, not_and]
          constructor
          · intro ⟨hall, hnodup, hfresh⟩
            exact ⟨hall, ⟨fun g hg heq => (hfresh g hg).1 heq.symm, hnodup⟩,
              fun g hg => (hfresh g hg).2⟩
          · intro ⟨hall, ⟨hnew, hnodup⟩, hfresh⟩
            exact ⟨hall, hnodup, fun g hg => ⟨fun heq => hnew g hg heq.symm, hfresh g hg⟩⟩
    · have hnot : ¬ f.IsKnown ids := fun h => hfile ((hknown _).mpr h.1)
      simp [hfile, hnot]

/-! ### Sound snapshots -/

/-- The snapshot can become a database. -/
structure IsSound (s : Snapshot) : Prop where
  unresolved : ∃ f, KindFilter.parse s.unresolved = .ok f
  nodup : (s.entities.map (·.id)).Nodup
  references : ∀ r ∈ s.references, r.IsKnown (s.entities.map (·.id))
  lexemes : ∀ f ∈ s.lexemes, f.IsKnown (s.entities.map (·.id))
  files : (s.lexemes.map (·.file)).Nodup

/-- The open database with the content of the snapshot, whose unresolved entities are those of the
kinds that a filter selects. -/
def opened (s : Snapshot) (unresolved : KindFilter) : Database where
  name := s.name
  languages := s.languages
  entities := s.entities
  references := s.references
  tokensOf := s.tokensOf
  isUnresolved := fun e => !unresolved.isAll && unresolved.selects e.kind
  isOpen := true

/-- A snapshot is sound if its filter parses and it passes the checks. -/
theorem isSound_iff : s.IsSound ↔ (∃ f, KindFilter.parse s.unresolved = .ok f) ∧
    firstRepeat ∅ (s.entities.map (·.id)) = none ∧
    checkReferences (Std.TreeSet.ofList (s.entities.map (·.id))) 0 s.references = .ok () ∧
    checkLexemes (Std.TreeSet.ofList (s.entities.map (·.id))) ∅ s.lexemes = .ok () := by
  have hknown (id : EntityId) :
      (Std.TreeSet.ofList (s.entities.map (·.id)) : IdSet).contains id ↔
        id ∈ s.entities.map (·.id) := by
    simp
  rw [firstRepeat_eq_none_iff, checkReferences_eq_ok_iff hknown, checkLexemes_eq_ok_iff hknown]
  constructor
  · intro ⟨hunresolved, hnodup, hreferences, hlexemes, hfiles⟩
    exact ⟨hunresolved, ⟨hnodup, by simp⟩, hreferences, hlexemes, hfiles, by simp⟩
  · rintro ⟨hunresolved, ⟨hnodup, -⟩, hreferences, hlexemes, hfiles, -⟩
    exact ⟨hunresolved, hnodup, hreferences, hlexemes, hfiles⟩

/-- Sound snapshots, and no others, become databases. -/
theorem toDatabase_eq_ok_iff : s.toDatabase = .ok db ↔
    s.IsSound ∧ ∃ f, KindFilter.parse s.unresolved = .ok f ∧ db = s.opened f := by
  rw [isSound_iff]
  simp only [toDatabase, bind, Except.bind, pure, Except.pure]
  cases KindFilter.parse s.unresolved with
  | error e => simp
  | ok f =>
    cases firstRepeat ∅ (s.entities.map (·.id)) with
    | some id => simp [throw, throwThe, MonadExceptOf.throw]
    | none =>
      cases checkReferences (Std.TreeSet.ofList (s.entities.map (·.id))) 0 s.references with
      | error e => simp
      | ok _ =>
        cases checkLexemes (Std.TreeSet.ofList (s.entities.map (·.id))) ∅ s.lexemes with
        | error e => simp
        | ok _ =>
          simp only [Except.ok.injEq, opened]
          constructor
          · rintro rfl
            exact ⟨⟨⟨f, rfl⟩, trivial, trivial, trivial⟩, f, rfl, rfl⟩
          · rintro ⟨-, f', rfl, rfl⟩
            rfl

/-! ### Reordered snapshots -/

/-- The snapshot `s'` has the content of `s`, its entities, references and lists of tokens in any
order. -/
structure IsReordered (s s' : Snapshot) : Prop where
  name : s.name = s'.name
  languages : s.languages = s'.languages
  unresolved : s.unresolved = s'.unresolved
  entities : s.entities.Perm s'.entities
  references : s.references.Perm s'.references
  lexemes : s.lexemes.Perm s'.lexemes

theorem find?_lexemes_eq_some_iff (h : (fs.map (·.file)).Nodup) {file : EntityId}
    {f : FileTokens} : fs.find? (·.file == file) = some f ↔ f ∈ fs ∧ f.file = file := by
  constructor
  · intro hfind
    exact ⟨List.mem_of_find?_eq_some hfind, by simpa using List.find?_some hfind⟩
  · rintro ⟨hf, rfl⟩
    cases hfind : fs.find? (·.file == f.file) with
    | none => simpa using List.find?_eq_none.mp hfind f hf
    | some g =>
      have hg : g.file = f.file := by simpa using List.find?_some hfind
      rw [List.inj_on_of_nodup_map h (List.mem_of_find?_eq_some hfind) hf hg]

namespace IsReordered

theorem isSound (h : s.IsReordered s') (hs : s.IsSound) : s'.IsSound := by
  have hids := h.entities.map (·.id)
  constructor
  case unresolved => exact h.unresolved ▸ hs.unresolved
  case nodup => exact hids.nodup_iff.mp hs.nodup
  case references =>
    intro r hr
    exact (hs.references r (h.references.mem_iff.mpr hr)).mono hids.subset
  case lexemes =>
    intro f hf
    obtain ⟨hfile, htokens⟩ := hs.lexemes f (h.lexemes.mem_iff.mpr hf)
    exact ⟨hids.mem_iff.mp hfile, fun t ht id hid => hids.mem_iff.mp (htokens t ht id hid)⟩
  case files => exact (h.lexemes.map (·.file)).nodup_iff.mp hs.files

/-- Each file has one list of tokens, which is found wherever it is stored. -/
theorem tokensOf_eq (h : s.IsReordered s') (hs : s.IsSound) : s.tokensOf = s'.tokensOf := by
  funext file
  have hfind : s.lexemes.find? (·.file == file) = s'.lexemes.find? (·.file == file) := by
    ext f
    rw [find?_lexemes_eq_some_iff hs.files, find?_lexemes_eq_some_iff (h.isSound hs).files,
      h.lexemes.mem_iff]
  rw [tokensOf, tokensOf, hfind]

theorem opened_eq (h : s.IsReordered s') (hs : s.IsSound) (f : KindFilter) : s'.opened f =
    { s.opened f with entities := s'.entities, references := s'.references } := by
  simp only [opened, ← h.name, ← h.languages, ← h.tokensOf_eq hs]

end IsReordered

end Snapshot

end CodeGraph
