import CodeGraph.KindFilter
import CodeGraph.Proofs.Except
import CodeGraph.Proofs.Kind

/-!
# The language of kind filters

A filter is written as pieces between commas, and a piece as terms between blanks: words of word
characters, some of them after a tilde. Exactly such a text parses, unless it is blank. A kind is
selected if it meets one of the pieces, which depends on nothing but the set of their terms.

## Main definitions

* `FilterTerm.IsTerm` — a word of word characters, which may follow a tilde
* `KindFilter.IsExpression` — what may be written as a filter
* `Alternative.Admits` — the words of a name meet a piece
* `KindFilter.SamePieces` — two expressions differ in order and repetition only

## Main results

* `KindFilter.exists_parse_iff` — what parses
* `KindFilter.selects_iff` — what is selected
* `KindFilter.parse_exact` — both, with the laws of commas, order and repetition
-/

namespace CodeGraph

/-! ### Terms -/

namespace FilterTerm

variable {filter w : String} {cs word : List Char} {t : FilterTerm}

/-- The word characters make up the text, one at least. -/
structure IsFilterWord (word : List Char) : Prop where
  ne_nil : word ≠ []
  wordChar : ∀ c ∈ word, isWordChar c

/-- The text is a word, before which there may be one tilde. -/
def IsTerm (cs : List Char) : Prop :=
  IsFilterWord cs ∨ ∃ word, cs = '~' :: word ∧ IsFilterWord word

theorem IsFilterWord.head?_ne (h : IsFilterWord word) : word.head? ≠ some '~' := by
  intro hhead
  have htilde := h.wordChar '~' (List.mem_of_head? hhead)
  exact absurd htilde (by decide +kernel)

theorem parseWord_eq_ok_iff :
    parseWord filter word = .ok w ↔ IsFilterWord word ∧ String.ofList (Text.lower word) = w := by
  rw [parseWord]
  by_cases hempty : word.isEmpty
  · rw [if_pos hempty]
    have hno : ¬ IsFilterWord word := fun h => h.ne_nil (List.isEmpty_iff.mp hempty)
    simp [hno]
  · rw [if_neg hempty]
    cases hfind : word.find? (! isWordChar ·) with
    | none =>
      have hword : IsFilterWord word := by
        refine ⟨fun hnil => hempty (List.isEmpty_iff.mpr hnil), fun c hc => ?_⟩
        simpa using List.find?_eq_none.mp hfind c hc
      simp [hword]
    | some c =>
      have hno : ¬ IsFilterWord word := by
        intro h
        have hc := h.wordChar c (List.mem_of_find?_eq_some hfind)
        simpa [hc] using List.find?_some hfind
      simp [hno]

/-- A term is excluded by the tilde, and its word is put in lower case. -/
theorem parse_eq_ok_iff : parse filter cs = .ok t ↔
    ∃ word, IsFilterWord word ∧ t.word = String.ofList (Text.lower word) ∧
      (t.excluded = true ∧ cs = '~' :: word ∨ t.excluded = false ∧ cs = word) := by
  obtain ⟨excluded, w⟩ := t
  unfold parse
  split
  next word =>
    -- a tilde is taken off once, and what follows it must be a word
    rw [Except.map_eq_ok_iff]
    constructor
    · intro ⟨w', hw', heq⟩
      obtain ⟨hword, rfl⟩ := parseWord_eq_ok_iff.mp hw'
      cases heq
      exact ⟨word, hword, rfl, Or.inl ⟨rfl, rfl⟩⟩
    · intro ⟨word', hword, hw, hmark⟩
      rcases hmark with ⟨rfl, heq⟩ | ⟨-, rfl⟩
      · cases heq
        exact ⟨w, parseWord_eq_ok_iff.mpr ⟨hword, hw.symm⟩, rfl⟩
      · exact absurd rfl hword.head?_ne
  next hno =>
    rw [Except.map_eq_ok_iff]
    constructor
    · intro ⟨w', hw', heq⟩
      obtain ⟨hword, rfl⟩ := parseWord_eq_ok_iff.mp hw'
      cases heq
      exact ⟨cs, hword, rfl, Or.inr ⟨rfl, rfl⟩⟩
    · intro ⟨word', hword, hw, hmark⟩
      rcases hmark with ⟨-, rfl⟩ | ⟨rfl, rfl⟩
      · exact absurd rfl (hno word')
      · exact ⟨w, parseWord_eq_ok_iff.mpr ⟨hword, hw.symm⟩, rfl⟩

theorem exists_parse_iff : (∃ t, parse filter cs = .ok t) ↔ IsTerm cs := by
  simp only [parse_eq_ok_iff]
  constructor
  · intro ⟨t, word, hword, _, hmark⟩
    rcases hmark with ⟨-, rfl⟩ | ⟨-, rfl⟩
    · exact Or.inr ⟨word, rfl, hword⟩
    · exact Or.inl hword
  · intro h
    rcases h with hword | ⟨word, rfl, hword⟩
    · exact ⟨⟨false, _⟩, cs, hword, rfl, Or.inr ⟨rfl, rfl⟩⟩
    · exact ⟨⟨true, _⟩, word, hword, rfl, Or.inl ⟨rfl, rfl⟩⟩

-- the text after the first tilde is the word, and a word has none
example : parse "class ~~file" "~~file".toList =
    .error (.unexpectedCharacter '~' "class ~~file") := by
  decide +kernel

end FilterTerm

/-! ### Pieces -/

namespace Alternative

open FilterTerm (IsTerm IsFilterWord)

variable {filter w : String} {piece piece' name : List Char} {a : Alternative}
  {terms : List FilterTerm} {k : Kind}

/-- Among the words of the name, in lower case, are those of the piece without a tilde and none of
those with one. -/
structure Admits (piece name : List Char) : Prop where
  wanted : ∀ word ∈ Text.words piece, word.head? ≠ some '~' →
    Text.lower word ∈ (Text.words name).map Text.lower
  excluded : ∀ word, '~' :: word ∈ Text.words piece →
    Text.lower word ∉ (Text.words name).map Text.lower

/-- The pieces have the same terms, in any order and any number of times. -/
def SameTerms (piece piece' : List Char) : Prop :=
  ∀ word, word ∈ Text.words piece ↔ word ∈ Text.words piece'

theorem SameTerms.symm (h : SameTerms piece piece') : SameTerms piece' piece :=
  fun word => (h word).symm

/-- A piece admits names by its set of terms. -/
theorem SameTerms.admits (h : SameTerms piece piece') (hadmits : Admits piece name) :
    Admits piece' name :=
  ⟨fun word hword => hadmits.wanted word ((h word).mpr hword),
    fun word hword => hadmits.excluded word ((h _).mpr hword)⟩

theorem parse_eq_ok_iff : parse filter piece = .ok a ↔ ¬ piece.all Text.isBlank ∧
    ∃ terms, (Text.words piece).mapM (FilterTerm.parse filter) = .ok terms ∧
      ofTerms terms = a := by
  rw [parse]
  by_cases hblank : piece.all Text.isBlank
  · simp [hblank]
  · rw [if_neg hblank, Except.map_eq_ok_iff]
    exact (and_iff_right hblank).symm

theorem exists_parse_iff : (∃ a, parse filter piece = .ok a) ↔
    ¬ piece.all Text.isBlank ∧ ∀ cs ∈ Text.words piece, IsTerm cs := by
  simp only [parse_eq_ok_iff]
  constructor
  · intro ⟨a, hblank, terms, hterms, _⟩
    refine ⟨hblank, fun cs hcs => ?_⟩
    obtain ⟨t, -, ht⟩ := Except.exists_of_mapM_eq_ok hterms hcs
    exact FilterTerm.exists_parse_iff.mp ⟨t, ht⟩
  · intro ⟨hblank, hterm⟩
    have hparses : ∀ cs ∈ Text.words piece, ∃ t, FilterTerm.parse filter cs = .ok t :=
      fun cs hcs => FilterTerm.exists_parse_iff.mpr (hterm cs hcs)
    obtain ⟨terms, hterms⟩ := Except.exists_mapM hparses
    exact ⟨_, hblank, terms, hterms, rfl⟩

section Words

variable (h : parse filter piece = .ok a)
include h

/-- The terms of a piece are the parsed words. -/
theorem exists_terms_of_parse : ∃ terms, ofTerms terms = a ∧
    ∀ t, t ∈ terms ↔ ∃ cs ∈ Text.words piece, FilterTerm.parse filter cs = .ok t := by
  obtain ⟨-, terms, hterms, hofTerms⟩ := parse_eq_ok_iff.mp h
  refine ⟨terms, hofTerms, fun t => ?_⟩
  constructor
  · exact Except.exists_of_mem_mapM hterms
  · intro ⟨cs, hcs, ht⟩
    obtain ⟨t', ht', hparse⟩ := Except.exists_of_mapM_eq_ok hterms hcs
    exact Except.ok.inj (hparse.symm.trans ht) ▸ ht'

theorem mem_includes_iff : w ∈ a.includes ↔ ∃ word ∈ Text.words piece,
    word.head? ≠ some '~' ∧ String.ofList (Text.lower word) = w := by
  obtain ⟨terms, rfl, hterms⟩ := exists_terms_of_parse h
  simp only [ofTerms, List.mem_map, List.mem_filter, hterms, FilterTerm.parse_eq_ok_iff,
    Bool.not_eq_true']
  constructor
  · rintro ⟨t, ⟨⟨cs, hcs, word, hword, hw, hmark⟩, hincluded⟩, rfl⟩
    rcases hmark with ⟨hexcluded, -⟩ | ⟨-, rfl⟩
    · exact absurd (hincluded.symm.trans hexcluded) Bool.false_ne_true
    · exact ⟨cs, hcs, hword.head?_ne, hw.symm⟩
  · rintro ⟨word, hmem, hhead, rfl⟩
    refine ⟨⟨false, _⟩, ⟨⟨word, hmem, word, ?_, rfl, Or.inr ⟨rfl, rfl⟩⟩, rfl⟩, rfl⟩
    -- a term that does not begin with a tilde is a word
    rcases (exists_parse_iff.mp ⟨_, h⟩).2 word hmem with hword | ⟨word', rfl, -⟩
    · exact hword
    · exact absurd rfl hhead

theorem mem_excludes_iff : w ∈ a.excludes ↔ ∃ word, '~' :: word ∈ Text.words piece ∧
    String.ofList (Text.lower word) = w := by
  obtain ⟨terms, rfl, hterms⟩ := exists_terms_of_parse h
  simp only [ofTerms, List.mem_map, List.mem_filter, hterms, FilterTerm.parse_eq_ok_iff]
  constructor
  · rintro ⟨t, ⟨⟨cs, hcs, word, -, hw, hmark⟩, hexcluded⟩, rfl⟩
    rcases hmark with ⟨-, rfl⟩ | ⟨hincluded, -⟩
    · exact ⟨word, hcs, hw.symm⟩
    · exact absurd (hincluded.symm.trans hexcluded) Bool.false_ne_true
  · rintro ⟨word, hmem, rfl⟩
    refine ⟨⟨true, _⟩, ⟨⟨_, hmem, word, ?_, rfl, Or.inl ⟨rfl, rfl⟩⟩, rfl⟩, rfl⟩
    rcases (exists_parse_iff.mp ⟨_, h⟩).2 _ hmem with hword | ⟨word', heq, hword⟩
    · exact absurd rfl hword.head?_ne
    · cases heq
      exact hword

/-- The alternative of a piece selects the kinds whose names the piece admits. -/
theorem selects_iff : a.selects k ↔ Admits piece k.name.toList := by
  -- names and pieces are split at the same blanks and put in lower case in the same way
  have hcarries (word : List Char) : k.hasWord (String.ofList (Text.lower word)) ↔
      Text.lower word ∈ (Text.words k.name.toList).map Text.lower := by
    rw [Kind.hasWord_iff, k.words_eq, List.mem_map, List.mem_map]
    simp only [String.ofList_inj]
  rw [selects, Bool.and_eq_true, List.all_eq_true, Bool.not_eq_true', List.any_eq_false]
  simp only [mem_includes_iff h, mem_excludes_iff h]
  constructor
  · intro ⟨hincludes, hexcludes⟩
    constructor
    case wanted =>
      intro word hword hhead
      exact (hcarries word).mp (hincludes _ ⟨word, hword, hhead, rfl⟩)
    case excluded =>
      intro word hword
      exact mt (hcarries word).mpr (hexcludes _ ⟨word, hword, rfl⟩)
  · intro hadmits
    constructor
    · rintro w ⟨word, hword, hhead, rfl⟩
      exact (hcarries word).mpr (hadmits.wanted word hword hhead)
    · rintro w ⟨word, hword, rfl⟩
      exact mt (hcarries word).mp (hadmits.excluded word hword)

end Words

end Alternative

/-! ### Expressions -/

namespace KindFilter

open CodeGraph.Alternative (Admits SameTerms)
open FilterTerm (IsTerm)

variable {expr other : String} {f g : KindFilter} {k : Kind} {piece : List Char}

/-- The texts between the commas of an expression. -/
def pieces (expr : String) : List (List Char) :=
  expr.toList.splitOnP (· == ',')

/-- The expression is blank, or none of its pieces is and all are made of terms. -/
def IsExpression (expr : String) : Prop :=
  expr.toList.all Text.isBlank ∨
    ∀ piece ∈ pieces expr, ¬ piece.all Text.isBlank ∧ ∀ cs ∈ Text.words piece, IsTerm cs

/-- The expressions have the same pieces, in any order and any number of times, where pieces are
the same if they have the same terms. -/
structure SamePieces (expr other : String) : Prop where
  left : ∀ piece ∈ pieces expr, ∃ piece' ∈ pieces other, SameTerms piece piece'
  right : ∀ piece' ∈ pieces other, ∃ piece ∈ pieces expr, SameTerms piece piece'

theorem parse_of_blank (h : expr.toList.all Text.isBlank) : parse expr = .ok all := by
  rw [parse, if_pos h]

theorem parse_eq_ok_iff (h : ¬ expr.toList.all Text.isBlank) : parse expr = .ok f ↔
    (pieces expr).mapM (Alternative.parse expr) = .ok f.alternatives := by
  rw [parse, if_neg h, Except.map_eq_ok_iff, pieces]
  constructor
  · rintro ⟨alternatives, halternatives, rfl⟩
    exact halternatives
  · intro halternatives
    exact ⟨f.alternatives, halternatives, rfl⟩

/-- A text parses if it is blank or made of pieces of terms. -/
theorem exists_parse_iff : (∃ f, parse expr = .ok f) ↔ IsExpression expr := by
  by_cases hblank : expr.toList.all Text.isBlank
  · exact ⟨fun _ => Or.inl hblank, fun _ => ⟨all, parse_of_blank hblank⟩⟩
  · rw [IsExpression, or_iff_right hblank]
    simp only [parse_eq_ok_iff hblank]
    constructor
    · intro ⟨f, hf⟩ piece hpiece
      obtain ⟨a, -, ha⟩ := Except.exists_of_mapM_eq_ok hf hpiece
      exact Alternative.exists_parse_iff.mp ⟨a, ha⟩
    · intro h
      have hparses : ∀ piece ∈ pieces expr, ∃ a, Alternative.parse expr piece = .ok a :=
        fun piece hpiece => Alternative.exists_parse_iff.mpr (h piece hpiece)
      obtain ⟨alternatives, halternatives⟩ := Except.exists_mapM hparses
      exact ⟨⟨alternatives⟩, halternatives⟩

theorem pieces_ne_nil (expr : String) : pieces expr ≠ [] :=
  List.splitOnP_ne_nil _ _

/-- An expression that is not blank selects by its pieces alone. -/
theorem selects_iff_of_not_blank (h : parse expr = .ok f)
    (hblank : ¬ expr.toList.all Text.isBlank) :
    f.selects k ↔ ∃ piece ∈ pieces expr, Admits piece k.name.toList := by
  have hparse := (parse_eq_ok_iff hblank).mp h
  -- there is a piece, hence an alternative
  have hsome : f.isAll = false := by
    obtain ⟨piece, hpiece⟩ := List.exists_mem_of_ne_nil _ (pieces_ne_nil expr)
    obtain ⟨a, ha, -⟩ := Except.exists_of_mapM_eq_ok hparse hpiece
    simpa [isAll] using List.ne_nil_of_mem ha
  rw [selects, hsome, Bool.false_or, List.any_eq_true]
  -- each alternative comes from a piece, and each piece makes an alternative
  constructor
  · intro ⟨a, ha, hselects⟩
    obtain ⟨piece, hpiece, hparse⟩ := Except.exists_of_mem_mapM hparse ha
    exact ⟨piece, hpiece, (Alternative.selects_iff hparse).mp hselects⟩
  · intro ⟨piece, hpiece, hadmits⟩
    obtain ⟨a, ha, hparse⟩ := Except.exists_of_mapM_eq_ok hparse hpiece
    exact ⟨a, ha, (Alternative.selects_iff hparse).mpr hadmits⟩

/-- A kind is selected if the expression is blank or one of its pieces admits the name. -/
theorem selects_iff (h : parse expr = .ok f) : f.selects k ↔
    expr.toList.all Text.isBlank ∨ ∃ piece ∈ pieces expr, Admits piece k.name.toList := by
  by_cases hblank : expr.toList.all Text.isBlank
  · have hall : f = all := Except.ok.inj (h.symm.trans (parse_of_blank hblank))
    rw [hall, or_iff_left_of_imp fun _ => hblank]
    exact iff_of_true rfl hblank
  · rw [selects_iff_of_not_blank h hblank, or_iff_right hblank]

/-! ### Commas, order and repetition -/

theorem pieces_comma (expr other : String) :
    pieces (expr ++ "," ++ other) = pieces expr ++ pieces other := by
  have htext : (expr ++ "," ++ other).toList = expr.toList ++ ',' :: other.toList := by simp
  rw [pieces, htext, List.splitOnP_append_cons _ _ (by decide)]
  rfl

/-- A comma is no blank. -/
theorem not_blank_comma (expr other : String) :
    ¬ (expr ++ "," ++ other).toList.all Text.isBlank := by
  simp [Text.isBlank, Text.blankRanges, Text.CharTable.contains]

theorem IsExpression.comma (h : IsExpression expr) (h' : IsExpression other)
    (hblank : ¬ expr.toList.all Text.isBlank) (hblank' : ¬ other.toList.all Text.isBlank) :
    IsExpression (expr ++ "," ++ other) := by
  refine Or.inr ?_
  rw [pieces_comma, List.forall_mem_append]
  exact ⟨h.resolve_left hblank, h'.resolve_left hblank'⟩

theorem SameTerms.all_isBlank {piece piece' : List Char} (h : SameTerms piece piece')
    (hblank : piece'.all Text.isBlank) : piece.all Text.isBlank := by
  rw [← Text.words_eq_nil_iff, List.eq_nil_iff_forall_not_mem] at hblank ⊢
  exact fun word hword => hblank word ((h word).mp hword)

/-- A blank text has no comma, and so it is its only piece. -/
theorem pieces_of_blank (h : expr.toList.all Text.isBlank) : pieces expr = [expr.toList] := by
  refine List.splitOnP_eq_singleton fun c hc => ?_
  rw [beq_eq_false_iff_ne]
  rintro rfl
  exact absurd (List.all_eq_true.mp h ',' hc) (by decide)

namespace SamePieces

variable (h : SamePieces expr other) (hexpr : IsExpression expr)
  (hblank : ¬ expr.toList.all Text.isBlank)
include h hexpr hblank

theorem not_blank : ¬ other.toList.all Text.isBlank := by
  intro hother
  obtain ⟨piece, hpiece, hsame⟩ := h.right other.toList (by simp [pieces_of_blank hother])
  exact (hexpr.resolve_left hblank piece hpiece).1 (SameTerms.all_isBlank hsame hother)

theorem isExpression : IsExpression other := by
  refine Or.inr fun piece' hpiece' => ?_
  obtain ⟨piece, hpiece, hsame⟩ := h.right piece' hpiece'
  obtain ⟨hpieceBlank, hterms⟩ := hexpr.resolve_left hblank piece hpiece
  constructor
  · exact mt (SameTerms.all_isBlank hsame) hpieceBlank
  · exact fun cs hcs => hterms cs ((hsame cs).mpr hcs)

end SamePieces

/-- Exactly the blank texts and those made of pieces of terms parse, and such a text selects the
kinds whose names it admits. Between commas stand alternatives. Neither order nor repetition of
terms or pieces matters. -/
theorem parse_exact (expr : String) :
    ((∃ f, parse expr = .ok f) ↔ IsExpression expr) ∧
    (∀ f, parse expr = .ok f → ∀ name : String, f.selects (Kind.ofName name) ↔
      expr.toList.all Text.isBlank ∨ ∃ piece ∈ pieces expr, Admits piece name.toList) ∧
    (∀ f, parse expr = .ok f → ¬ expr.toList.all Text.isBlank →
      ∀ other g, parse other = .ok g → ¬ other.toList.all Text.isBlank →
        ∃ both, parse (expr ++ "," ++ other) = .ok both ∧
          ∀ k, both.selects k ↔ f.selects k ∨ g.selects k) ∧
    (∀ f, parse expr = .ok f → ¬ expr.toList.all Text.isBlank →
      ∀ other, SamePieces expr other →
        ∃ g, parse other = .ok g ∧ ∀ k, g.selects k ↔ f.selects k) := by
  refine ⟨exists_parse_iff, fun f hf name => selects_iff hf, ?_, ?_⟩
  · -- the pieces of both expressions are those of the joined one
    intro f hf hblank other g hg hblank'
    have hboth := (exists_parse_iff.mp ⟨f, hf⟩).comma (exists_parse_iff.mp ⟨g, hg⟩) hblank hblank'
    obtain ⟨both, hparse⟩ := exists_parse_iff.mpr hboth
    refine ⟨both, hparse, fun k => ?_⟩
    rw [selects_iff_of_not_blank hparse (not_blank_comma expr other),
      selects_iff_of_not_blank hf hblank, selects_iff_of_not_blank hg hblank', pieces_comma]
    simp only [List.mem_append, or_and_right, exists_or]
  · -- pieces with the same terms admit the same names
    intro f hf hblank other hsame
    have hexpr := exists_parse_iff.mp ⟨f, hf⟩
    obtain ⟨g, hg⟩ := exists_parse_iff.mpr (hsame.isExpression hexpr hblank)
    refine ⟨g, hg, fun k => ?_⟩
    rw [selects_iff_of_not_blank hg (hsame.not_blank hexpr hblank),
      selects_iff_of_not_blank hf hblank]
    constructor
    · intro ⟨piece', hpiece', hadmits⟩
      obtain ⟨piece, hpiece, hterms⟩ := hsame.right piece' hpiece'
      exact ⟨piece, hpiece, hterms.symm.admits hadmits⟩
    · intro ⟨piece, hpiece, hadmits⟩
      obtain ⟨piece', hpiece', hterms⟩ := hsame.left piece hpiece
      exact ⟨piece', hpiece', hterms.admits hadmits⟩

theorem parse_exact_class :
    ∃ f, parse "Class ~Unknown" = .ok f ∧
      f.selects (Kind.ofName "Java Class") ∧ ¬ f.selects (Kind.ofName "Unknown Class") ∧
      (∃ both, parse "Class ~Unknown,interface" = .ok both ∧
        both.selects (Kind.ofName "Public Interface")) ∧
      ∃ g, parse "~Unknown Class  Class" = .ok g ∧ ∀ k, g.selects k ↔ f.selects k := by
  have hparse : parse "Class ~Unknown" = .ok ⟨[⟨["class"], ["unknown"]⟩]⟩ := by decide +kernel
  have hinterface : parse "interface" = .ok ⟨[⟨["interface"], []⟩]⟩ := by decide +kernel
  have hblank : ¬ "Class ~Unknown".toList.all Text.isBlank := by decide
  have hterms : SamePieces "Class ~Unknown" "~Unknown Class  Class" := by
    have hpieces : pieces "Class ~Unknown" = ["Class ~Unknown".toList] := by decide +kernel
    have hpieces' : pieces "~Unknown Class  Class" = ["~Unknown Class  Class".toList] := by
      decide +kernel
    have hwords : SameTerms "Class ~Unknown".toList "~Unknown Class  Class".toList := by
      have hleft : Text.words "Class ~Unknown".toList = ["Class".toList, "~Unknown".toList] := by
        decide +kernel
      have hright : Text.words "~Unknown Class  Class".toList =
          ["~Unknown".toList, "Class".toList, "Class".toList] := by
        decide +kernel
      intro word
      simp only [hleft, hright, List.mem_cons, List.not_mem_nil, or_false, or_self]
      exact or_comm
    constructor
    · simpa only [hpieces, hpieces', List.mem_singleton, exists_eq_left, forall_eq] using hwords
    · simpa only [hpieces, hpieces', List.mem_singleton, exists_eq_left, forall_eq] using hwords
  obtain ⟨-, -, hcomma, hsame⟩ := parse_exact "Class ~Unknown"
  refine ⟨_, hparse, by decide +kernel, by decide +kernel, ?_, hsame _ hparse hblank _ hterms⟩
  obtain ⟨both, hboth, hunion⟩ := hcomma _ hparse hblank "interface" _ hinterface (by decide)
  exact ⟨both, hboth, (hunion _).mpr (Or.inr (by decide +kernel))⟩

end KindFilter

end CodeGraph
