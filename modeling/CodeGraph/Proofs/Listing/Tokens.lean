import CodeGraph.Proofs.Listing
import CodeGraph.Proofs.Printing
import CodeGraph.Proofs.Session.Lookups
import CodeGraph.Proofs.TokenWalk

/-!
# What listings of tokens show

A listing shows the first tokens of a file that are shown at all. Blank tokens are not, whether or
not the walk comes to them, so that the listing is the same with and without them.

## Main definitions

* `TokenSelection.Shows` — the categories of the tokens that are shown
* `Config.withWhitespace` — the settings with white space selected or not

## Main results

* `Listing.shownLexemes_eq` — the two filters of a listing are one
* `Listing.tokens_withWhitespace`, `Command.run_withWhitespace` — whether white space is selected
  makes no difference
* `Command.lexer_exact` — the command that lists the tokens of a file
-/

namespace CodeGraph

/-! ### Categories -/

namespace TokenSelection

variable {selection : TokenSelection} {category : TokenCategory}

/-- Tokens of the category are shown. They are not blank, and what the selection can leave out
besides it takes in. -/
structure Shows (selection : TokenSelection) (category : TokenCategory) : Prop where
  ne_whitespace : category ≠ .whitespace
  ne_newline : category ≠ .newline
  comments : category = .comment → selection.comments
  preprocessor : category = .preprocessor → selection.preprocessor

theorem shows_iff : selection.Shows category ↔
    category.isBlank = false ∧ selection.admits category := by
  constructor
  · rintro ⟨hwhitespace, hnewline, hcomments, hpreprocessor⟩
    cases category <;> simp_all [TokenCategory.isBlank, admits]
  · rintro ⟨hblank, hadmits⟩
    constructor <;> rintro rfl <;> simp_all [TokenCategory.isBlank, admits]

instance (selection : TokenSelection) : DecidablePred selection.Shows :=
  fun _ => decidable_of_iff _ shows_iff.symm

/-- The selection with white space taken in or not. -/
def withWhitespace (selection : TokenSelection) (whitespace : Bool) : TokenSelection :=
  { selection with whitespace }

theorem shows_withWhitespace (whitespace : Bool) :
    (selection.withWhitespace whitespace).Shows category ↔ selection.Shows category :=
  ⟨fun h => ⟨h.ne_whitespace, h.ne_newline, h.comments, h.preprocessor⟩,
    fun h => ⟨h.ne_whitespace, h.ne_newline, h.comments, h.preprocessor⟩⟩

end TokenSelection

/-- The settings with white space selected or not. -/
def Config.withWhitespace (c : Config) (whitespace : Bool) : Config :=
  { c with lexer := c.lexer.withWhitespace whitespace }

/-! ### Listings -/

namespace Listing

/-- What the walk leaves out and what the listing leaves out of it make one filter of the recorded
tokens, after which the limit counts. -/
theorem shownLexemes_eq (w : TokenWalk) (limit : Nat) : shownLexemes w limit =
    ((w.tokens.zipIdx.filter fun x => w.selection.Shows x.1.category).map fun x =>
      ⟨x.2, x.1⟩ : List Lexeme).take limit := by
  rw [shownLexemes, TokenWalk.lexemes, TokenWalk.lexemesFrom_eq, List.filter_map,
    List.filter_filter]
  simp [TokenSelection.shows_iff]

theorem map_token_shownLexemes (w : TokenWalk) (limit : Nat) :
    (shownLexemes w limit).map (·.token) =
      (w.tokens.filter (w.selection.Shows ·.category)).take limit := by
  rw [shownLexemes_eq, List.map_take, List.map_map]
  exact congrArg (List.take limit)
    (TokenWalk.map_fst_filter_zipIdx (w.selection.Shows ·.category) w.tokens)

theorem shownLexemes_withWhitespace (file : Entity) (ts : List Token) (selection : TokenSelection)
    (catalog : Catalog) (whitespace : Bool) (limit : Nat) :
    shownLexemes ⟨file, ts, selection.withWhitespace whitespace, catalog⟩ limit =
      shownLexemes ⟨file, ts, selection, catalog⟩ limit := by
  simp only [shownLexemes_eq, TokenSelection.shows_withWhitespace]

/-- Whether white space is selected makes no difference to the listing. -/
theorem tokens_withWhitespace (s : Session) (selection : TokenSelection) (whitespace : Bool)
    (name : String) (limit : Nat) :
    tokens s (selection.withWhitespace whitespace) name limit = tokens s selection name limit := by
  rw [tokens, tokens]
  congr 1
  funext f
  simp only [Session.tokenWalk, bind, Except.bind, pure, Except.pure]
  cases s.queried f.id with
  | error e => rfl
  | ok file =>
    by_cases hfile : file.kind.hasWord "file"
    · simp only [hfile, if_true, query, shownLexemes_withWhitespace]
      rfl
    · simp only [hfile]
      rfl

end Listing

/-! ### Files by name -/

/-- The entity is a file and has the name. -/
def Entity.IsFileNamed (e : Entity) (name : String) : Prop :=
  e.name = name ∧ e.kind.hasWord "file"

/-- Of the files that have a name the one of lowest number is listed. -/
theorem Session.IsOver.exists_tokens_eq {s : Session} {db : Database} {config : Config}
    {name : String} (h : s.IsOver db config) (hfile : ∃ e ∈ db.entities, e.IsFileNamed name)
    (hname : name ≠ "") : ∃ f, f ∈ db.entities ∧ f.kind.hasWord "file" ∧
      Catalog.IsLowest db.entities (·.IsFileNamed name) (some f) ∧ ∀ selection limit,
        Listing.tokens s selection name limit =
          Listing.query (s.tokenWalk f.id selection) fun w =>
            Listing.ofLines (s!"=== Tokens of {name} (first {limit}) ===" ::
              (Listing.shownLexemes w limit).map (Listing.tokenLine w)) := by
  have hlowest : Catalog.IsLowest db.entities (·.IsFileNamed name)
      (s.catalog.find? name (wordFilter "file")) := by
    simp only [Entity.IsFileNamed, ← selects_wordFilter]
    exact h.holds.scans.find name (wordFilter "file")
  cases hfind : s.catalog.find? name (wordFilter "file") with
  | none =>
    obtain ⟨e, he, hnamed⟩ := hfile
    exact absurd hnamed (hlowest.eq_none_iff.mp hfind e he)
  | some f =>
    obtain ⟨⟨hmem, hnamed⟩, -⟩ := (hlowest.eq_some_iff f).mp hfind
    refine ⟨f, hmem, hnamed.2, hfind ▸ hlowest, fun selection limit => ?_⟩
    rw [Listing.tokens, h.require_eq (parse_of_isPlain (by decide)), if_neg hname, hfind]
    rfl

/-! ### The command -/

namespace Command

open Listing (shownLexemes tokenLine)

/-- No command does anything else if white space is selected, or if it is not. -/
theorem run_withWhitespace (s : Session) (settings : Config) (whitespace : Bool) (files : FileTree)
    (sink : Sink) (command : Command) :
    run s (settings.withWhitespace whitespace) files sink command =
      run s settings files sink command := by
  cases command with
  | lexer name limit => exact congrArg (print files sink) (Listing.tokens_withWhitespace _ _ _ _ _)
  | _ => rfl

/-- The command prints a heading and the first tokens recorded for the file that are shown at all.
What is left out does not count against the limit, and whether white space is selected makes no
difference to what is printed. -/
theorem lexer_exact (settings : Config) (name : String) (limit : Option Nat) :
    (∀ db config s, Session.start db config = .ok s →
      (∃ e ∈ db.entities, e.IsFileNamed name) → name ≠ "" →
      let n := limit.getD settings.display.tokenLimit
      ∃ f w, Catalog.IsLowest db.entities (·.IsFileNamed name) (some f) ∧
        s.tokenWalk f.id settings.lexer = .ok w ∧
        (shownLexemes w n).map (·.token) =
          ((db.recorded f.id).filter (settings.lexer.Shows ·.category)).take n ∧
        let lines := s!"=== Tokens of {name} (first {n}) ===" ::
          (shownLexemes w n).map (tokenLine w)
        ∀ files sink, sink.NeverFails → run s settings files sink (.lexer name limit) =
          ⟨{ sink with accepted := sink.accepted ++ Bytes.ofLines lines }, files, none⟩) ∧
    ∀ whitespace, (∀ db, Session.start db (settings.withWhitespace whitespace) =
        Session.start db settings) ∧
      ∀ s files sink, run s (settings.withWhitespace whitespace) files sink (.lexer name limit) =
        run s settings files sink (.lexer name limit) := by
  constructor
  case left =>
    intro db config s hs hfile hname n
    have hover := Session.start_eq_ok_iff.mp hs
    obtain ⟨f, hmem, hkind, hlowest, htokens⟩ := hover.exists_tokens_eq hfile hname
    have hwalk := hover.tokenWalk_eq_ok hmem hkind settings.lexer
    refine ⟨f, _, hlowest, hwalk, Listing.map_token_shownLexemes _ n, ?_⟩
    intro lines files sink hsink
    rw [run, htokens, hwalk]
    exact (offers_print files (Listing.ofLines lines)).of_neverFails hsink
  case right =>
    exact fun whitespace => ⟨fun _ => rfl, fun s files sink =>
      run_withWhitespace s settings whitespace files sink (.lexer name limit)⟩

section Named

open Session (spaced nameA exists_start_opened)
open Session.Sample (file classA)

theorem map_tokenLine_spaced {f : KindFilter} {s : Session}
    (h : s.IsOver (spaced.opened f) {}) :
    let w : TokenWalk := ⟨file, (spaced.opened f).recorded file.id, {}, s.catalog⟩
    (shownLexemes w 2).map (tokenLine w) =
      ["  1:1 Keyword      \"class\"", "  1:7 Identifier   \"A\" -> A"] := by
  intro w
  have hshown : shownLexemes w 2 = [⟨0, .starting .keyword "class" ⟨1, 1⟩ none⟩, ⟨2, nameA⟩] :=
    rfl
  have hclass : w.entity? ⟨2, nameA⟩ = some classA :=
    h.holds.entity?_eq_some_iff.mpr
      ⟨List.mem_cons_of_mem _ (List.mem_singleton_self _), rfl⟩
  have hnone : w.entity? ⟨0, .starting .keyword "class" ⟨1, 1⟩ none⟩ = none :=
    rfl
  rw [hshown, List.map_cons, List.map_singleton, tokenLine, tokenLine, hclass, hnone]
  decide +kernel

/-- Of the four tokens of the file the two blank ones are left out. -/
theorem lexer_exact_spaced : ∃ f s, Session.start (spaced.opened f) {} = .ok s ∧
    (∃ e ∈ (spaced.opened f).entities, e.IsFileNamed "AB.src") ∧ "AB.src" ≠ "" ∧
    ∀ whitespace, (run s (({} : Config).withWhitespace whitespace) .empty .unlimited
      (.lexer "AB.src" (some 2))).sink.accepted = Bytes.ofLines
        ["=== Tokens of AB.src (first 2) ===", "  1:1 Keyword      \"class\"",
          "  1:7 Identifier   \"A\" -> A"] := by
  obtain ⟨f, s, -, hs⟩ := exists_start_opened (show spaced.toDatabase = .ok _ from rfl)
  have hover := Session.start_eq_ok_iff.mp hs
  have hfile : file.IsFileNamed "AB.src" := ⟨rfl, by decide +kernel⟩
  have hstored : ∃ e ∈ (spaced.opened f).entities, e.IsFileNamed "AB.src" :=
    ⟨file, List.mem_cons_self, hfile⟩
  have hname : "AB.src" ≠ "" := by decide
  obtain ⟨hshows, hblind⟩ := lexer_exact {} "AB.src" (some 2)
  obtain ⟨g, w, hlowest, hwalk, -, hrun⟩ := hshows _ _ s hs hstored hname
  -- the class is no file, so that the file is the one found
  obtain rfl : g = file := by
    obtain ⟨⟨hmem, hnamed⟩, -⟩ := (hlowest.eq_some_iff g).mp rfl
    rcases List.mem_cons.mp hmem with rfl | hmem
    · rfl
    · obtain rfl := List.mem_singleton.mp hmem
      exact absurd hnamed.1 (by decide)
  obtain rfl := Except.ok.inj
    (hwalk.symm.trans (hover.tokenWalk_eq_ok List.mem_cons_self hfile.2 {}))
  refine ⟨f, s, hs, hstored, hname, fun whitespace => ?_⟩
  rw [(hblind whitespace).2, hrun .empty .unlimited Sink.neverFails_unlimited]
  have htitle : s!"=== Tokens of AB.src (first {2}) ===" =
      "=== Tokens of AB.src (first 2) ===" := by
    decide +kernel
  exact congrArg Bytes.ofLines (congrArg₂ List.cons htitle (map_tokenLine_spaced hover))

/-- A file without a name. -/
def unnamed : Entity :=
  Session.Sample.entity 1 "" "src/unnamed" "File"

def nameless : Snapshot where
  name := "nameless"
  languages := []
  unresolved := Snapshot.defaultUnresolved
  entities := [unnamed]
  references := []
  lexemes := [⟨unnamed.id, [.starting .keyword "class" ⟨1, 1⟩ none]⟩]

/-- Nothing is printed of a file without a name, though it has a token that would be shown. -/
theorem nameless_refused : ∃ f s, nameless.toDatabase = .ok (nameless.opened f) ∧
    Session.start (nameless.opened f) {} = .ok s ∧
    unnamed ∈ (nameless.opened f).entities ∧ unnamed.IsFileNamed "" ∧
    ((nameless.opened f).recorded unnamed.id).filter (({} : Config).lexer.Shows ·.category) =
      [.starting .keyword "class" ⟨1, 1⟩ none] ∧
    run s {} .empty .unlimited (.lexer "" none) = refuse .empty .unlimited .emptyName := by
  obtain ⟨f, s, hdb, hs⟩ := exists_start_opened (show nameless.toDatabase = .ok _ from rfl)
  have hover := Session.start_eq_ok_iff.mp hs
  refine ⟨f, s, hdb, hs, List.mem_cons_self, ⟨rfl, by decide +kernel⟩, rfl, ?_⟩
  rw [run, Listing.tokens, hover.require_eq (Session.parse_of_isPlain (by decide)), if_pos rfl]
  rfl

end Named

end Command

end CodeGraph
