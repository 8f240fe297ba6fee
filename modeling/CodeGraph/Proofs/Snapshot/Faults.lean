import CodeGraph.Proofs.Session.Start
import CodeGraph.Proofs.Snapshot
import Mathlib.Data.List.Duplicate

/-!
# Faults of snapshots

A snapshot is checked when it becomes a database. One that is served as it stands is checked by the
session that starts over it, in another way: the numbers of entities are sorted and not collected in
a set, and references are checked while they are indexed. Where the tokens and the filter for
unresolved kinds are sound, both find fault with the same snapshots, and of the references they find
the same fault.

## Main definitions

* `Reference.Dangles` — the first number of a reference that is not known
* `Reference.FirstDangling` — the first such number in a list of references
* `Snapshot.HasSoundTokens` — the lists of tokens are sound
* `Snapshot.VerdictsAgree` — both checks come to the same verdict

## Main results

* `Reference.exists_firstDangling` — some number dangles or all are known
* `Snapshot.verdicts_agree` — both checks agree, and what the first one requires of tokens
-/

namespace CodeGraph

/-! ### The first number that dangles -/

namespace Reference

variable {ids : List EntityId} {r : Reference} {rs : List Reference} {role : Role} {id : EntityId}
  {i n : Nat}

/-- Of the source, the target and the file of the reference, in this order, `id` in the role `role`
is the first that is not among `ids`. -/
inductive Dangles (ids : List EntityId) (r : Reference) : Role → EntityId → Prop
  | source (h : r.source ∉ ids) : r.Dangles ids .source r.source
  | target (hsource : r.source ∈ ids) (h : r.target ∉ ids) : r.Dangles ids .target r.target
  | file (hsource : r.source ∈ ids) (htarget : r.target ∈ ids) (h : r.file ∉ ids) :
      r.Dangles ids .file r.file

theorem exists_dangles (h : ¬ r.IsKnown ids) : ∃ role id, r.Dangles ids role id := by
  by_cases hsource : r.source ∈ ids
  · by_cases htarget : r.target ∈ ids
    · have hfile : r.file ∉ ids := fun hfile => h ⟨hsource, htarget, hfile⟩
      exact ⟨_, _, .file hsource htarget hfile⟩
    · exact ⟨_, _, .target hsource htarget⟩
  · exact ⟨_, _, .source hsource⟩

/-- The reference numbered `i` is the first in the list to hold a number that is not among `ids`,
and the first such number of it is `id`, in the role `role`. -/
inductive FirstDangling (ids : List EntityId) : List Reference → Nat → Role → EntityId → Prop
  | here (r : Reference) (rs : List Reference) (role : Role) (id : EntityId)
      (h : r.Dangles ids role id) : FirstDangling ids (r :: rs) 0 role id
  | later (r : Reference) (rs : List Reference) (i : Nat) (role : Role) (id : EntityId)
      (hr : r.IsKnown ids) (h : FirstDangling ids rs i role id) :
      FirstDangling ids (r :: rs) (i + 1) role id

/-- If not all numbers in the references are known, then one of them is the first to dangle. -/
theorem exists_firstDangling (h : ¬ ∀ r ∈ rs, r.IsKnown ids) :
    ∃ i role id, FirstDangling ids rs i role id := by
  induction rs with
  | nil => exact absurd (List.forall_mem_nil _) h
  | cons r rs ih =>
    by_cases hr : r.IsKnown ids
    · have hrs : ¬ ∀ r ∈ rs, r.IsKnown ids :=
        fun hrs => h (List.forall_mem_cons.mpr ⟨hr, hrs⟩)
      obtain ⟨i, role, id, hfirst⟩ := ih hrs
      exact ⟨i + 1, role, id, .later r rs i role id hr hfirst⟩
    · obtain ⟨role, id, hdangles⟩ := exists_dangles hr
      exact ⟨0, role, id, .here r rs role id hdangles⟩

end Reference

/-! ### The check of a snapshot -/

namespace Snapshot

variable {s : Snapshot} {known seen : IdSet} {ids : List EntityId} {r : Reference}
  {rs : List Reference} {role : Role} {id : EntityId} {i n : Nat}

theorem find?_roles_of_dangles (hknown : ∀ id, known.contains id ↔ id ∈ ids)
    (h : r.Dangles ids role id) : (roles r).find? (! known.contains ·.2) = some (role, id) := by
  cases h with
  | source h => simp [roles, Bool.eq_false_iff, hknown, h]
  | target hsource h => simp [roles, Bool.eq_false_iff, (hknown _).mpr hsource, hknown, h]
  | file hsource htarget h =>
    simp [roles, Bool.eq_false_iff, (hknown _).mpr hsource, (hknown _).mpr htarget, hknown, h]

theorem find?_roles_of_isKnown (hknown : ∀ id, known.contains id ↔ id ∈ ids)
    (h : r.IsKnown ids) : (roles r).find? (! known.contains ·.2) = none := by
  obtain ⟨hsource, htarget, hfile⟩ := h
  simp [roles, (hknown _).mpr hsource, (hknown _).mpr htarget, (hknown _).mpr hfile]

theorem checkReferences_of_firstDangling (hknown : ∀ id, known.contains id ↔ id ∈ ids)
    (h : Reference.FirstDangling ids rs i role id) :
    checkReferences known n rs = .error (.danglingReference role id (n + i)) := by
  -- a sound reference is passed over and counted, the first other one is named
  induction h generalizing n with
  | here r rs role id h =>
    rw [checkReferences, find?_roles_of_dangles hknown h]
    rfl
  | later r rs i role id hr _ ih =>
    rw [checkReferences, find?_roles_of_isKnown hknown hr]
    dsimp only
    rw [ih, Nat.add_assoc, Nat.add_comm 1]

/-- A number that is found to be repeated is in the list twice, unless it has been seen before. -/
theorem duplicate_of_firstRepeat (h : firstRepeat seen ids = some id) :
    List.Duplicate id ids ∨ id ∈ ids ∧ id ∈ seen := by
  -- what has been seen grows by the head, which is why the numbers seen before are left open
  induction ids generalizing seen with
  | nil => cases h
  | cons x ids ih =>
    rw [firstRepeat] at h
    split at h
    next hx =>
      cases h
      exact Or.inr ⟨List.mem_cons_self, hx⟩
    next =>
      obtain hdup | ⟨hmem, hseen⟩ := ih h
      · exact Or.inl (hdup.duplicate_cons x)
      · rw [Std.TreeSet.mem_insert, Std.compare_eq_iff_eq] at hseen
        obtain rfl | hseen := hseen
        · exact Or.inl (List.Mem.duplicate_cons_self hmem)
        · exact Or.inr ⟨List.mem_cons_of_mem x hmem, hseen⟩

end Snapshot

/-! ### The check of a session -/

theorem Catalog.duplicate_of_sharedId {es : List Entity} {id : EntityId}
    (h : Catalog.sharedId es = some id) : List.Duplicate id (es.map (·.id)) := by
  induction es with
  | nil => cases h
  | cons a es ih =>
    cases es with
    | nil => cases h
    | cons b es =>
      rw [sharedId] at h
      split at h
      next hid =>
        cases h
        rw [List.map_cons, List.map_cons, hid]
        exact List.Mem.duplicate_cons_self List.mem_cons_self
      next => exact (ih h).duplicate_cons a.id

/-- If entities share numbers, then their catalogue is refused for a number that two of them
bear. -/
theorem Catalog.ofEntities_of_not_nodup {es : List Entity} (h : ¬ (es.map (·.id)).Nodup) :
    ∃ id, List.Duplicate id (es.map (·.id)) ∧ ofEntities es = .error (.duplicateEntity id) := by
  rw [← sharedId_mergeSort_eq_none_iff] at h
  obtain ⟨id, hid⟩ := Option.ne_none_iff_exists'.mp h
  refine ⟨id, ?_, by rw [ofEntities, hid]⟩
  -- it is the sorted list that is searched, in which every number is as often as before
  have hperm := (List.mergeSort_perm es inOrder).map (·.id)
  have hdup := duplicate_of_sharedId hid
  rw [List.duplicate_iff_two_le_count] at hdup ⊢
  rwa [hperm.count_eq] at hdup

namespace EdgeIndex

variable {c : Catalog} {es : List Entity} {r : Reference} {rs : List Reference} {role : Role}
  {id : EntityId} {i n : Nat}

theorem resolve_of_notMem (h : c.Holds es) (hid : id ∉ es.map (·.id)) :
    resolve c n role id = .error (.danglingReference role id n) := by
  rw [resolve]
  cases hfound : c.entity? id with
  | none => rfl
  | some e =>
    obtain ⟨he, rfl⟩ := h.entity?_eq_some_iff.mp hfound
    exact absurd (List.mem_map_of_mem he) hid

theorem exists_resolve_of_mem (h : c.Holds es) (n : Nat) (role : Role)
    (hid : id ∈ es.map (·.id)) : ∃ e, resolve c n role id = .ok e := by
  obtain ⟨e, he, hid⟩ := List.mem_map.mp hid
  exact ⟨e, (resolve_eq_ok_iff h).mpr ⟨he, hid⟩⟩

theorem forwardEdge_of_dangles (h : c.Holds es) (hr : r.Dangles (es.map (·.id)) role id) :
    forwardEdge c n r = .error (.danglingReference role id n) := by
  cases hr with
  | source hid =>
    rw [forwardEdge, resolve_of_notMem h hid]
    rfl
  | target hsource hid =>
    obtain ⟨source, hsource⟩ := exists_resolve_of_mem h n .source hsource
    rw [forwardEdge, hsource, resolve_of_notMem h hid]
    rfl
  | file hsource htarget hid =>
    obtain ⟨source, hsource⟩ := exists_resolve_of_mem h n .source hsource
    obtain ⟨target, htarget⟩ := exists_resolve_of_mem h n .target htarget
    rw [forwardEdge, hsource, htarget, resolve_of_notMem h hid]
    rfl

theorem forwardEdges_of_firstDangling (h : c.Holds es)
    (hrs : Reference.FirstDangling (es.map (·.id)) rs i role id) :
    forwardEdges c n rs = .error (.danglingReference role id (n + i)) := by
  induction hrs generalizing n with
  | here r rs role id hr =>
    rw [forwardEdges, forwardEdge_of_dangles h hr]
    rfl
  | later r rs i role id hr _ ih =>
    obtain ⟨e, he⟩ := (exists_forwardEdge_iff (n := n) h).mpr hr
    rw [forwardEdges, he, ih, Nat.add_assoc, Nat.add_comm 1]
    rfl

end EdgeIndex

namespace Session

variable {db : Database} {config : Config} {t : Traversal}

/-- Over entities that share numbers no session starts. -/
theorem start_of_not_nodup (hopen : db.isOpen)
    (htraversal : Traversal.ofConfig config.graph = .ok t)
    (h : ¬ (db.entities.map (·.id)).Nodup) : ∃ id, List.Duplicate id (db.entities.map (·.id)) ∧
      start db config = .error (.duplicateEntity id) := by
  obtain ⟨id, hdup, hcatalog⟩ := Catalog.ofEntities_of_not_nodup h
  refine ⟨id, hdup, ?_⟩
  simp [start, hopen, htraversal, hcatalog, bind, Except.bind]

/-- Over references that hold unknown numbers no session starts. -/
theorem start_of_firstDangling {i : Nat} {role : Role} {id : EntityId} (hopen : db.isOpen)
    (htraversal : Traversal.ofConfig config.graph = .ok t)
    (hnodup : (db.entities.map (·.id)).Nodup)
    (h : Reference.FirstDangling (db.entities.map (·.id)) db.references i role id) :
    start db config = .error (.danglingReference role id i) := by
  obtain ⟨catalog, hcatalog⟩ := Catalog.exists_ofEntities_iff.mpr hnodup
  have hindex : EdgeIndex.ofReferences catalog db.references =
      .error (.danglingReference role id i) := by
    rw [EdgeIndex.ofReferences,
      EdgeIndex.forwardEdges_of_firstDangling (Catalog.holds_of_ofEntities hcatalog) h,
      Nat.zero_add]
    rfl
  simp [start, hopen, htraversal, hcatalog, hindex, bind, Except.bind]

end Session

/-! ### Both checks -/

namespace Snapshot

variable {s : Snapshot} {role : Role} {id : EntityId} {i : Nat}

/-- The files with tokens are known, none has two lists, and all entities of tokens are known. -/
structure HasSoundTokens (s : Snapshot) : Prop where
  lexemes : ∀ f ∈ s.lexemes, f.IsKnown (s.entities.map (·.id))
  files : (s.lexemes.map (·.file)).Nodup

theorem IsSound.hasSoundTokens (h : s.IsSound) : s.HasSoundTokens :=
  ⟨h.lexemes, h.files⟩

theorem toDatabase_of_not_nodup (hfilter : ∃ f, KindFilter.parse s.unresolved = .ok f)
    (h : ¬ (s.entities.map (·.id)).Nodup) : ∃ id, List.Duplicate id (s.entities.map (·.id)) ∧
      s.toDatabase = .error (.duplicateEntity id) := by
  obtain ⟨f, hf⟩ := hfilter
  cases hrepeat : firstRepeat ∅ (s.entities.map (·.id)) with
  | none => exact absurd (firstRepeat_eq_none_iff.mp hrepeat).1 h
  | some id =>
    have hdup : List.Duplicate id (s.entities.map (·.id)) := by
      obtain hdup | ⟨-, hseen⟩ := duplicate_of_firstRepeat hrepeat
      · exact hdup
      · simp at hseen
    refine ⟨id, hdup, ?_⟩
    simp [toDatabase, hf, hrepeat, bind, Except.bind, throw, throwThe, MonadExceptOf.throw]

theorem toDatabase_of_firstDangling (hfilter : ∃ f, KindFilter.parse s.unresolved = .ok f)
    (hnodup : (s.entities.map (·.id)).Nodup)
    (h : Reference.FirstDangling (s.entities.map (·.id)) s.references i role id) :
    s.toDatabase = .error (.danglingReference role id i) := by
  obtain ⟨f, hf⟩ := hfilter
  have hrepeat : firstRepeat ∅ (s.entities.map (·.id)) = none :=
    firstRepeat_eq_none_iff.mpr ⟨hnodup, by simp⟩
  have hknown (id : EntityId) :
      (Std.TreeSet.ofList (s.entities.map (·.id)) : IdSet).contains id ↔
        id ∈ s.entities.map (·.id) := by
    simp
  have hcheck : checkReferences (Std.TreeSet.ofList (s.entities.map (·.id))) 0 s.references =
      .error (.danglingReference role id i) := by
    rw [checkReferences_of_firstDangling hknown h, Nat.zero_add]
  simp [toDatabase, hf, hrepeat, hcheck, bind, Except.bind]

/-- The check of the snapshot and that of a session over what it serves come to one verdict. -/
structure VerdictsAgree (s : Snapshot) : Prop where
  accepted_iff : (∃ db, s.toDatabase = .ok db) ↔ ∃ session, Session.start s.serve {} = .ok session
  sound_iff : (∃ db, s.toDatabase = .ok db) ↔ (s.entities.map (·.id)).Nodup ∧
    ∀ r ∈ s.references, r.IsKnown (s.entities.map (·.id))
  /-- Both name the first number that dangles. -/
  dangling : (s.entities.map (·.id)).Nodup →
    (¬ ∀ r ∈ s.references, r.IsKnown (s.entities.map (·.id))) → ∃ i role id,
      Reference.FirstDangling (s.entities.map (·.id)) s.references i role id ∧
      (Error.danglingReference role id i).category = .invalidArgument ∧
      s.toDatabase = .error (.danglingReference role id i) ∧
      Session.start s.serve {} = .error (.danglingReference role id i)
  /-- Each names a number that is there twice. -/
  repeated : ¬ (s.entities.map (·.id)).Nodup →
    (∃ id, List.Duplicate id (s.entities.map (·.id)) ∧
      s.toDatabase = .error (.duplicateEntity id)) ∧
    ∃ id, List.Duplicate id (s.entities.map (·.id)) ∧
      Session.start s.serve {} = .error (.duplicateEntity id)

theorem exists_toDatabase_iff (hfilter : ∃ f, KindFilter.parse s.unresolved = .ok f)
    (htokens : s.HasSoundTokens) : (∃ db, s.toDatabase = .ok db) ↔
      (s.entities.map (·.id)).Nodup ∧ ∀ r ∈ s.references, r.IsKnown (s.entities.map (·.id)) := by
  simp only [toDatabase_eq_ok_iff]
  constructor
  · rintro ⟨db, hsound, -⟩
    exact ⟨hsound.nodup, hsound.references⟩
  · intro ⟨hnodup, hreferences⟩
    obtain ⟨f, hf⟩ := hfilter
    exact ⟨s.opened f, ⟨⟨f, hf⟩, hnodup, hreferences, htokens.lexemes, htokens.files⟩, f, hf, rfl⟩

theorem verdictsAgree (hfilter : ∃ f, KindFilter.parse s.unresolved = .ok f)
    (htokens : s.HasSoundTokens) : s.VerdictsAgree := by
  have hsound := exists_toDatabase_iff hfilter htokens
  have htraversal := Session.ofConfig_default
  have hstart : (∃ session, Session.start s.serve {} = .ok session) ↔
      (s.entities.map (·.id)).Nodup ∧
        ∀ r ∈ s.references, r.IsKnown (s.entities.map (·.id)) := by
    rw [Session.exists_start_iff]
    exact ⟨fun h => h.2.2, fun h => ⟨rfl, ⟨_, htraversal⟩, h⟩⟩
  constructor
  case accepted_iff => exact hsound.trans hstart.symm
  case sound_iff => exact hsound
  case dangling =>
    intro hnodup hunknown
    obtain ⟨i, role, id, hfirst⟩ := Reference.exists_firstDangling hunknown
    exact ⟨i, role, id, hfirst, rfl, toDatabase_of_firstDangling hfilter hnodup hfirst,
      Session.start_of_firstDangling rfl htraversal hnodup hfirst⟩
  case repeated =>
    intro hnodup
    have hserved : ¬ (s.serve.entities.map (·.id)).Nodup := hnodup
    exact ⟨toDatabase_of_not_nodup hfilter hnodup,
      Session.start_of_not_nodup rfl htraversal hserved⟩

/-- Where the filter for unresolved kinds parses and the tokens are sound, both checks agree.
Snapshots whose tokens are not sound are refused, and the database of the others has for each file
the tokens of its one list. -/
theorem verdicts_agree :
    ((∃ f, KindFilter.parse s.unresolved = .ok f) → s.HasSoundTokens → s.VerdictsAgree) ∧
    (¬ s.HasSoundTokens → ∃ e, s.toDatabase = .error e) ∧
    ∀ db, s.toDatabase = .ok db → ∀ file,
      (∀ f ∈ s.lexemes, f.file = file →
        db.tokensOf file = some f.tokens ∧ ∀ g ∈ s.lexemes, g.file = file → g = f) ∧
      ((∀ f ∈ s.lexemes, f.file ≠ file) → db.tokensOf file = none) := by
  refine ⟨verdictsAgree, fun htokens => ?_, fun db hdb file => ?_⟩
  · cases hdb : s.toDatabase with
    | error e => exact ⟨e, rfl⟩
    | ok db => exact absurd (toDatabase_eq_ok_iff.mp hdb).1.hasSoundTokens htokens
  · obtain ⟨hsound, f, -, rfl⟩ := toDatabase_eq_ok_iff.mp hdb
    refine ⟨fun f hf hfile => ⟨?_, fun g hg hgfile => ?_⟩, fun hnone => ?_⟩
    · have hfind := (find?_lexemes_eq_some_iff hsound.files).mpr ⟨hf, hfile⟩
      simp [opened, tokensOf, hfind]
    · exact List.inj_on_of_nodup_map hsound.files hg hf (hgfile.trans hfile.symm)
    · have hfind : s.lexemes.find? (·.file == file) = none := by simpa using hnone
      simp [opened, tokensOf, hfind]

/-! ### A stray reference -/

section Stray

open Session.Sample

/-- The target and the file of the second reference are not stored. -/
def stray : Snapshot where
  name := "stray"
  languages := []
  unresolved := defaultUnresolved
  entities := [classA, file, run]
  references := [reference classA run "Define" 2, ⟨run.id, ⟨9⟩, Kind.ofName "Call", ⟨8⟩, ⟨3, 5⟩⟩]
  lexemes := [⟨file.id, [⟨.identifier, "run", ⟨2, 5⟩, ⟨2, 7⟩, some run.id⟩]⟩]

/-- Its target is what both checks name. -/
theorem verdicts_agree_stray : (∃ f, KindFilter.parse stray.unresolved = .ok f) ∧
    stray.HasSoundTokens ∧ stray.toDatabase = .error (.danglingReference .target ⟨9⟩ 1) ∧
    Session.start stray.serve {} = .error (.danglingReference .target ⟨9⟩ 1) := by
  have hfilter : ∃ f, KindFilter.parse stray.unresolved = .ok f := ⟨_, rfl⟩
  have htokens : stray.HasSoundTokens := by
    constructor
    · unfold FileTokens.IsKnown
      decide
    · decide
  have hunknown : ¬ ∀ r ∈ stray.references, r.IsKnown (stray.entities.map (·.id)) := by
    unfold Reference.IsKnown
    decide
  have hdatabase : stray.toDatabase = .error (.danglingReference .target ⟨9⟩ 1) := rfl
  obtain ⟨i, role, id, -, -, h, hstart⟩ :=
    (verdicts_agree.1 hfilter htokens).dangling (by decide) hunknown
  -- the verdict on the snapshot is computed, that of the session is known to be the same
  rw [hdatabase] at h
  exact ⟨hfilter, htokens, hdatabase, hstart.trans (congrArg _ (Except.error.inj h).symm)⟩

end Stray

end Snapshot

end CodeGraph
