import CodeGraph.Proofs.Session.Start
import CodeGraph.Proofs.Snapshot
import CodeGraph.TokenWalk

/-!
# Walks and filtered lists

A walk that is followed step by step comes to the recorded tokens of the selected categories, each
at its place among all tokens, in recorded order, and then ends. It can be begun anew at any time.

## Main definitions

* `TokenWalk.Move`, `TokenWalk.follow` — the lexeme that a reader of a walk comes to
* `TokenWalk.Filters` — the walk comes to the selected tokens of a list
* `TokenWalk.Names` — the entities that lexemes name

## Main results

* `TokenWalk.mem_lexemes_iff`, `TokenWalk.pairwise_lexemes` — the lexemes of a walk by place
* `TokenWalk.next?_eq`, `TokenWalk.follow_eq` — one step of a walk, and a run of several
* `Session.tokenWalk_exact` — the walk over a file of a session
-/

namespace CodeGraph

namespace TokenWalk

variable {w : TokenWalk} {selection : TokenSelection} {l : Lexeme} {place n : Nat} {ts : List Token}

/-! ### The lexemes of a walk -/

theorem lexemesFrom_eq (selection : TokenSelection) (place : Nat) (ts : List Token) :
    lexemesFrom selection place ts =
      ((ts.zipIdx place).filter fun x => selection.admits x.1.category).map fun x =>
        ⟨x.2, x.1⟩ := by
  induction ts generalizing place with
  | nil => rfl
  | cons t ts ih =>
    rw [lexemesFrom, List.zipIdx_cons, List.filter_cons]
    by_cases ht : selection.admits t.category
    · rw [if_pos ht, if_pos ht, ih, List.map_cons]
    · rw [if_neg ht, if_neg ht, ih]

/-- A lexeme is a selected token at its place. -/
theorem mem_lexemes_iff (w : TokenWalk) (l : Lexeme) : l ∈ w.lexemes ↔
    w.tokens[l.place]? = some l.token ∧ w.selection.admits l.token.category := by
  simp only [lexemes, lexemesFrom_eq, List.mem_map, List.mem_filter,
    List.mem_zipIdx_iff_getElem?]
  constructor
  · rintro ⟨x, hx, rfl⟩
    exact hx
  · exact fun hl => ⟨(l.token, l.place), hl, rfl⟩

theorem pairwise_lexemes (w : TokenWalk) : w.lexemes.Pairwise fun a b => a.place < b.place := by
  have hplaces : (w.tokens.zipIdx.map Prod.snd).Pairwise (· < ·) := by
    rw [List.zipIdx_map_snd]
    exact List.pairwise_lt_range'
  rw [lexemes, lexemesFrom_eq, List.pairwise_map]
  exact (List.pairwise_map.mp hplaces).filter _

/-- The places are forgotten again. -/
theorem map_fst_filter_zipIdx (p : Token → Bool) (ts : List Token) :
    (ts.zipIdx.filter fun x => p x.1).map Prod.fst = ts.filter p := by
  have hfilter := List.filter_map (f := Prod.fst) (p := p) (l := ts.zipIdx)
  rw [List.zipIdx_map_fst] at hfilter
  exact hfilter.symm

theorem map_token_lexemes (w : TokenWalk) :
    w.lexemes.map (·.token) = w.tokens.filter (w.selection.admits ·.category) := by
  rw [lexemes, lexemesFrom_eq, List.map_map]
  exact map_fst_filter_zipIdx (w.selection.admits ·.category) w.tokens

/-! ### Steps -/

theorem seek_eq (selection : TokenSelection) (place : Nat) (ts : List Token) :
    seek selection place ts = (lexemesFrom selection place ts)[0]? := by
  induction ts generalizing place with
  | nil => rfl
  | cons t ts ih =>
    rw [seek, lexemesFrom]
    by_cases ht : selection.admits t.category
    · rw [if_pos ht, if_pos ht]
      rfl
    · rw [if_neg ht, if_neg ht, ih]

/-- The search for the lexeme after one begins behind its place. -/
theorem seek_after (h : (lexemesFrom selection place ts)[n]? = some l) : place ≤ l.place ∧
    seek selection (l.place + 1) (ts.drop (l.place + 1 - place)) =
      (lexemesFrom selection place ts)[n + 1]? := by
  induction ts generalizing place n with
  | nil => simp [lexemesFrom] at h
  | cons t ts ih =>
    rw [lexemesFrom] at h ⊢
    -- a lexeme behind the first token is one of the list that starts at the next place
    have hlater {n : Nat} (hl : (lexemesFrom selection (place + 1) ts)[n]? = some l) :
        place ≤ l.place ∧ seek selection (l.place + 1) ((t :: ts).drop (l.place + 1 - place)) =
          (lexemesFrom selection (place + 1) ts)[n + 1]? := by
      obtain ⟨hplace, hseek⟩ := ih hl
      have hdrop : l.place + 1 - place = l.place + 1 - (place + 1) + 1 := by omega
      rw [hdrop, List.drop_succ_cons]
      exact ⟨Nat.le_of_succ_le hplace, hseek⟩
    by_cases ht : selection.admits t.category
    · rw [if_pos ht] at h ⊢
      cases n with
      | zero =>
        obtain rfl := Option.some.inj h
        rw [Nat.add_sub_cancel_left, List.drop_one, List.tail_cons, seek_eq]
        exact ⟨Nat.le_refl _, rfl⟩
      | succ n => exact hlater h
    · rw [if_neg ht] at h ⊢
      exact hlater h

theorem first?_eq (w : TokenWalk) : w.first? = w.lexemes[0]? :=
  seek_eq w.selection 0 w.tokens

/-- After a lexeme comes the next one, and after the last there is none. -/
theorem next?_eq (h : w.lexemes[n]? = some l) : w.next? l = w.lexemes[n + 1]? :=
  (seek_after h).2

/-! ### Runs -/

/-- What the reader of a walk can do. -/
inductive Move where
  /-- Begin the walk, or begin it anew. -/
  | first
  | next
  deriving DecidableEq, Repr

/-- The lexeme that a move comes to from another, if there is one. -/
def move (w : TokenWalk) (current : Option Lexeme) : Move → Option Lexeme
  | .first => w.first?
  | .next => current.bind w.next?

/-- The lexeme that a reader who starts before the walk comes to. -/
def follow (w : TokenWalk) (moves : List Move) : Option Lexeme :=
  moves.foldl w.move none

/-- Whatever has been read before, a walk that is begun comes to its lexemes one by one and then
ends. -/
theorem follow_eq (w : TokenWalk) (moves : List Move) (n : Nat) :
    w.follow (moves ++ .first :: List.replicate n .next) = w.lexemes[n]? := by
  induction n with
  | zero =>
    rw [follow, List.foldl_append]
    exact w.first?_eq
  | succ n ih =>
    rw [List.replicate_succ', ← List.cons_append, ← List.append_assoc, follow, List.foldl_append,
      ← follow, ih, List.foldl_cons, List.foldl_nil, move]
    cases hl : w.lexemes[n]? with
    | none =>
      rw [List.getElem?_eq_none_iff] at hl
      rw [List.getElem?_eq_none (Nat.le_succ_of_le hl)]
      rfl
    | some l => exact next?_eq hl

/-! ### Files -/

/-- The walk comes to the selected tokens of a list. -/
structure Filters (w : TokenWalk) (selection : TokenSelection) (recorded : List Token) : Prop where
  tokens : w.lexemes.map (·.token) = recorded.filter (selection.admits ·.category)
  mem_iff : ∀ l : Lexeme, l ∈ w.lexemes ↔
    recorded[l.place]? = some l.token ∧ selection.admits l.token.category
  ascending : w.lexemes.Pairwise fun a b => a.place < b.place
  first : w.first? = w.lexemes[0]?
  next : ∀ n l, w.lexemes[n]? = some l → w.next? l = w.lexemes[n + 1]?
  last : ∀ l ∈ w.lexemes.getLast?, w.next? l = none
  follow : ∀ moves n, w.follow (moves ++ .first :: List.replicate n .next) = w.lexemes[n]?

/-- The entities that the lexemes of the walk name are stored, and the walk finds them if it is to
resolve entities. -/
structure Names (w : TokenWalk) (selection : TokenSelection) (es : List Entity) : Prop where
  entity_eq_some_iff : ∀ l ∈ w.lexemes, ∀ e, w.entity? l = some e ↔
    selection.entities ∧ l.token.entity = some e.id ∧ e ∈ es
  isSome_iff : ∀ l ∈ w.lexemes, (w.entity? l).isSome ↔
    selection.entities ∧ l.token.entity.isSome

theorem next?_eq_none (h : l ∈ w.lexemes.getLast?) : w.next? l = none := by
  rw [List.getLast?_eq_getElem?, Option.mem_def] at h
  rw [next?_eq h, List.getElem?_eq_none_iff]
  omega

theorem filters (w : TokenWalk) : w.Filters w.selection w.tokens :=
  ⟨w.map_token_lexemes, w.mem_lexemes_iff, w.pairwise_lexemes, w.first?_eq, fun _ _ => next?_eq,
    fun _ => next?_eq_none, w.follow_eq⟩

theorem entity?_eq_some_iff {es : List Entity} (h : w.catalog.Holds es) {e : Entity} :
    w.entity? l = some e ↔ w.selection.entities ∧ l.token.entity = some e.id ∧ e ∈ es := by
  rw [entity?]
  by_cases hentities : w.selection.entities
  · rw [if_pos hentities, Option.bind_eq_some_iff]
    simp only [h.entity?_eq_some_iff, hentities, true_and]
    constructor
    · rintro ⟨id, hid, he, rfl⟩
      exact ⟨hid, he⟩
    · exact fun ⟨hid, he⟩ => ⟨e.id, hid, he, rfl⟩
  · simp [hentities]

/-- Where the tokens name stored entities, these are found. -/
theorem names {es : List Entity} (h : w.catalog.Holds es)
    (hknown : ∀ t ∈ w.tokens, ∀ id, t.entity = some id → id ∈ es.map (·.id)) :
    w.Names w.selection es where
  entity_eq_some_iff _ _ _ := entity?_eq_some_iff h
  isSome_iff l hl := by
    simp only [Option.isSome_iff_exists, entity?_eq_some_iff h]
    constructor
    · rintro ⟨e, hentities, hid, -⟩
      exact ⟨hentities, e.id, hid⟩
    · rintro ⟨hentities, id, hid⟩
      have htoken := List.mem_of_getElem? ((w.mem_lexemes_iff l).mp hl).1
      obtain ⟨e, he, rfl⟩ := List.mem_map.mp (hknown _ htoken id hid)
      exact ⟨e, hentities, hid, he⟩

end TokenWalk

/-! ### Recorded tokens -/

namespace Database

/-- The tokens recorded for a file, none if it has no list. -/
def recorded (db : Database) (file : EntityId) : List Token :=
  (db.tokensOf file).getD []

end Database

/-- The tokens of a sound snapshot name stored entities. -/
theorem Snapshot.IsSound.known_of_mem_recorded {snap : Snapshot} (h : snap.IsSound) (f : KindFilter)
    {file : EntityId} {t : Token} (ht : t ∈ (snap.opened f).recorded file) {id : EntityId}
    (hid : t.entity = some id) : id ∈ snap.entities.map (·.id) := by
  cases hlist : snap.lexemes.find? (·.file == file) with
  | none => simp [Database.recorded, opened, tokensOf, hlist] at ht
  | some list =>
    simp only [Database.recorded, opened, tokensOf, hlist, Option.map_some, Option.getD_some] at ht
    exact (h.lexemes list (List.mem_of_find?_eq_some hlist)).2 t ht id hid

namespace Session

variable {s : Session} {db : Database} {config : Config} {f : Entity}

theorem IsOver.tokenWalk_eq_ok (h : s.IsOver db config) (hf : f ∈ db.entities)
    (hfile : f.kind.hasWord "file") (selection : TokenSelection) :
    s.tokenWalk f.id selection = .ok ⟨f, db.recorded f.id, selection, s.catalog⟩ := by
  simp only [tokenWalk, h.queried hf, hfile, h.database, Database.recorded, bind, Except.bind, pure,
    Except.pure, if_true]

/-- The tokens of a file can be walked over. The walk comes to the selected ones, and if they were
recorded in a sound snapshot, to the entities that they name. -/
theorem tokenWalk_exact (h : start db config = .ok s) (hf : f ∈ db.entities)
    (hfile : f.kind.hasWord "file") (selection : TokenSelection) :
    ∃ w, s.tokenWalk f.id selection = .ok w ∧ w.Filters selection (db.recorded f.id) ∧
      ∀ snap : Snapshot, snap.toDatabase = .ok db → w.Names selection db.entities := by
  have hover := start_eq_ok_iff.mp h
  refine ⟨_, hover.tokenWalk_eq_ok hf hfile selection, TokenWalk.filters _, fun snap hdb => ?_⟩
  obtain ⟨hsound, f, -, rfl⟩ := Snapshot.toDatabase_eq_ok_iff.mp hdb
  exact TokenWalk.names hover.holds fun t ht id hid => hsound.known_of_mem_recorded f ht hid

/-- A session starts over what a snapshot is opened to. -/
theorem exists_start_opened {snap : Snapshot} (h : snap.toDatabase = .ok db) :
    ∃ f s, snap.toDatabase = .ok (snap.opened f) ∧ start (snap.opened f) {} = .ok s := by
  obtain ⟨hsound, f, -, rfl⟩ := Snapshot.toDatabase_eq_ok_iff.mp h
  obtain ⟨s, hs⟩ : ∃ s, start (snap.opened f) {} = .ok s :=
    exists_start_iff.mpr ⟨rfl, ⟨_, ofConfig_default⟩, hsound.nodup, hsound.references⟩
  exact ⟨f, s, h, hs⟩

/-! ### A file with blanks -/

section Spaced

open Sample (file classA)

/-- The name of a class in the file. -/
def nameA : Token :=
  .starting .identifier "A" ⟨1, 7⟩ (some classA.id)

/-- The head of a class, in the one file of which tokens are recorded. -/
def spaced : Snapshot where
  name := "spaced"
  languages := []
  unresolved := Snapshot.defaultUnresolved
  entities := [file, classA]
  references := []
  lexemes := [⟨file.id, [.starting .keyword "class" ⟨1, 1⟩ none,
    .starting .whitespace " " ⟨1, 6⟩ none, nameA, .starting .newline "\n" ⟨1, 8⟩ none]⟩]

/-- Without blanks the name stands at the third place and comes second. A reader who has gone past
the end can begin anew. -/
theorem tokenWalk_exact_spaced : ∃ f s, spaced.toDatabase = .ok (spaced.opened f) ∧
    start (spaced.opened f) {} = .ok s ∧ file ∈ (spaced.opened f).entities ∧
    file.kind.hasWord "file" ∧
    ∃ w, s.tokenWalk file.id { whitespace := false } = .ok w ∧
      w.lexemes = [⟨0, .starting .keyword "class" ⟨1, 1⟩ none⟩, ⟨2, nameA⟩] ∧
      w.entity? ⟨2, nameA⟩ = some classA ∧ w.follow [.first, .next, .next] = none ∧
      w.follow [.first, .next, .next, .first, .next] = some ⟨2, nameA⟩ := by
  obtain ⟨f, s, hdb, hs⟩ := exists_start_opened (show spaced.toDatabase = .ok _ from rfl)
  have hfile : file ∈ (spaced.opened f).entities := List.mem_cons_self
  have hclass : classA ∈ (spaced.opened f).entities :=
    List.mem_cons_of_mem _ (List.mem_singleton_self _)
  have hkind : file.kind.hasWord "file" := by decide +kernel
  obtain ⟨w, hw, hfilters, hnames⟩ := tokenWalk_exact hs hfile hkind { whitespace := false }
  have hwalk := (start_eq_ok_iff.mp hs).tokenWalk_eq_ok hfile hkind { whitespace := false }
  have hlexemes : w.lexemes = [⟨0, .starting .keyword "class" ⟨1, 1⟩ none⟩, ⟨2, nameA⟩] := by
    obtain rfl := Except.ok.inj (hw.symm.trans hwalk)
    rfl
  have hname : (⟨2, nameA⟩ : Lexeme) ∈ w.lexemes := (hfilters.mem_iff _).mpr ⟨rfl, rfl⟩
  refine ⟨f, s, hdb, hs, hfile, hkind, w, hw, hlexemes, ?_, ?_, ?_⟩
  · exact ((hnames _ hdb).entity_eq_some_iff _ hname classA).mpr ⟨rfl, rfl, hclass⟩
  · exact (hfilters.follow [] 2).trans (by rw [hlexemes]; rfl)
  · exact (hfilters.follow [.first, .next, .next] 1).trans (by rw [hlexemes]; rfl)

end Spaced

end Session

end CodeGraph
