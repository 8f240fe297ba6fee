import CodeGraph.Proofs.KindFilter
import CodeGraph.Proofs.Text.Lowered

/-!
# Reading a filter back from its text

The text of a filter shows its words in lower case, the wanted ones of each alternative before the
excluded ones. It is the expression of the same filter if the words may stand in an expression
again. They may, unless one was written with the capital `İ`: its image ends in a combining dot,
which is no word character, so that the text of the filter is refused.

## Main definitions

* `FilterTerm.IsStored` — a word as filters hold it
* `Alternative.written` — the terms of an alternative in the order of its text

## Main results

* `KindFilter.HoldsStored.parse_text_of_no_dot`, `KindFilter.HoldsStored.parse_text_of_dot` — what
  a text is read as
* `KindFilter.hasDot_iff` — what the words of a filter were written with
* `KindFilter.read_back` — which filters are read back from their texts
-/

namespace CodeGraph

/-! ### Word characters -/

namespace FilterTerm

variable {filter w : String} {word : List Char} {c : Char}

/-- No letter or number is blank. -/
theorem not_blank_of_isAlphanumeric (h : Text.isAlphanumeric c) : Text.isBlank c = false := by
  have hall : Text.alphanumericRanges.ranges.all fun r => Text.blankRanges.ranges.all fun b =>
      decide (r.2 < b.1) || decide (b.2 < r.1) := by
    decide +kernel
  obtain ⟨r, hr, hc⟩ := List.any_eq_true.mp h
  rw [Text.isBlank, Text.CharTable.contains, List.any_eq_false]
  intro b hb hblank
  have hapart := List.all_eq_true.mp (List.all_eq_true.mp hall r hr) b hb
  simp only [Bool.or_eq_true, Bool.and_eq_true, decide_eq_true_iff] at hapart hblank hc
  omega

theorem isWordChar_iff : isWordChar c ↔ Text.isAlphanumeric c ∨ c = '_' ∨ c = '-' := by
  simp [isWordChar, or_assoc]

theorem not_blank_of_isWordChar (h : isWordChar c) : Text.isBlank c = false := by
  rcases isWordChar_iff.mp h with h | rfl | rfl
  · exact not_blank_of_isAlphanumeric h
  · decide
  · decide

/-- The image of a word character is a word character. -/
theorem isWordChar_lowerChar (h : isWordChar c) : isWordChar (Text.lowerChar c) := by
  rcases isWordChar_iff.mp h with h | rfl | rfl
  · exact isWordChar_iff.mpr (Or.inl (Text.isAlphanumeric_lowerChar h))
  · decide +kernel
  · decide +kernel

theorem not_isWordChar_dot : ¬ isWordChar '\u0307' := by
  decide +kernel

/-! ### Stored words -/

/-- A word as filters hold it: in lower case, and made of word characters and of the dots that `İ`
leaves. -/
structure IsStored (w : String) : Prop where
  ne_nil : w.toList ≠ []
  lowered : Text.lower w.toList = w.toList
  wordChar : ∀ c ∈ w.toList, isWordChar c ∨ c = '\u0307'

theorem isWordChar_of_mem_lower (hword : IsFilterWord word) (hc : c ∈ Text.lower word) :
    isWordChar c ∨ 'İ' ∈ word ∧ c = '\u0307' := by
  rcases Text.mem_lowerAfter hc with rfl | rfl | ⟨c', hc', -, rfl⟩ | ⟨hdotted, rfl | rfl⟩
  · exact Or.inl (by decide +kernel)
  · exact Or.inl (by decide +kernel)
  · exact Or.inl (isWordChar_lowerChar (hword.wordChar c' hc'))
  · exact Or.inl (by decide +kernel)
  · exact Or.inr ⟨hdotted, rfl⟩

theorem IsFilterWord.isStored (hword : IsFilterWord word) :
    IsStored (String.ofList (Text.lower word)) := by
  constructor <;> rw [String.toList_ofList]
  case ne_nil => exact Text.lower_ne_nil hword.ne_nil
  case lowered => exact Text.lower_lower word
  case wordChar =>
    intro c hc
    exact (isWordChar_of_mem_lower hword hc).imp_right And.right

/-- Of word characters, only `İ` leaves a dot. -/
theorem IsFilterWord.dot_mem_iff (hword : IsFilterWord word) :
    '\u0307' ∈ Text.lower word ↔ 'İ' ∈ word := by
  constructor
  · intro hdot
    rcases isWordChar_of_mem_lower hword hdot with h | ⟨h, -⟩
    · exact absurd h not_isWordChar_dot
    · exact h
  · exact fun h => Text.dot_mem_lowerAfter h []

namespace IsStored

variable (h : IsStored w)
include h

/-- A stored word without a dot may be written again. -/
theorem isFilterWord_iff : IsFilterWord w.toList ↔ '\u0307' ∉ w.toList := by
  constructor
  · intro hword hdot
    exact not_isWordChar_dot (hword.wordChar _ hdot)
  · intro hdot
    refine ⟨h.ne_nil, fun c hc => (h.wordChar c hc).resolve_right ?_⟩
    rintro rfl
    exact hdot hc

theorem not_blank : ∀ c ∈ w.toList, Text.isBlank c = false := by
  intro c hc
  rcases h.wordChar c hc with hword | rfl
  · exact not_blank_of_isWordChar hword
  · decide

theorem notMem {c : Char} (hc : c ∈ [',', '~']) : c ∉ w.toList := by
  intro hmem
  rcases h.wordChar c hmem with hword | rfl
  · have hno : [',', '~'].all (! isWordChar ·) := by decide +kernel
    simpa [hword] using List.all_eq_true.mp hno c hc
  · exact absurd hc (by decide)

theorem parseWord_of_no_dot (hdot : '\u0307' ∉ w.toList) :
    parseWord filter w.toList = .ok w := by
  refine parseWord_eq_ok_iff.mpr ⟨h.isFilterWord_iff.mpr hdot, ?_⟩
  rw [h.lowered, String.ofList_toList]

/-- The dot is the first character that is refused. -/
theorem parseWord_of_dot (hdot : '\u0307' ∈ w.toList) :
    parseWord filter w.toList = .error (.unexpectedCharacter '\u0307' filter) := by
  have hfind : w.toList.find? (! isWordChar ·) = some '\u0307' := by
    cases hfind : w.toList.find? (! isWordChar ·) with
    | none =>
      have hword := List.find?_eq_none.mp hfind _ hdot
      exact absurd (by simpa using hword) not_isWordChar_dot
    | some c =>
      have hno : ¬ isWordChar c := by simpa using List.find?_some hfind
      rw [(h.wordChar c (List.mem_of_find?_eq_some hfind)).resolve_left hno]
  rw [parseWord, if_neg (by simpa using h.ne_nil), hfind]

end IsStored

end FilterTerm

/-! ### Alternatives -/

namespace Alternative

open FilterTerm (IsFilterWord IsStored)

variable {filter w : String} {piece cs : List Char} {a : Alternative}

/-- The words of an alternative, wanted ones first. -/
def words (a : Alternative) : List String :=
  a.includes ++ a.excludes

/-- The terms of an alternative in the order of its text. -/
def written (a : Alternative) : List (List Char) :=
  a.includes.map String.toList ++ a.excludes.map ('~' :: ·.toList)

/-- There are words, and they are stored ones. -/
structure HoldsStored (a : Alternative) : Prop where
  ne_nil : a.words ≠ []
  stored : ∀ w ∈ a.words, IsStored w

/-- A word was written with `İ`. -/
def HasDot (a : Alternative) : Prop :=
  ∃ w ∈ a.words, '\u0307' ∈ w.toList

theorem toList_text (a : Alternative) : a.text.toList = [' '].intercalate a.written := by
  rw [text, String.toList_intercalate, written, List.map_append, List.map_map]
  congr 2
  simp

/-- The alternative of some terms. -/
def parseTerms (filter : String) (terms : List (List Char)) : Except Error Alternative :=
  if terms.isEmpty then .error (.emptyAlternative filter)
  else (terms.mapM (FilterTerm.parse filter)).map ofTerms

/-- Only the terms of a piece matter. -/
theorem parse_eq_parseTerms : parse filter piece = parseTerms filter (Text.words piece) := by
  rw [parse, parseTerms]
  have hiff : piece.all Text.isBlank ↔ (Text.words piece).isEmpty := by
    rw [List.isEmpty_iff, Text.words_eq_nil_iff]
  simp only [hiff]

section Parsed

variable (h : parse filter piece = .ok a)
include h

/-- The words of an alternative come from those of its piece. -/
theorem mem_words_iff : w ∈ a.words ↔ ∃ word, IsFilterWord word ∧
    (word ∈ Text.words piece ∨ '~' :: word ∈ Text.words piece) ∧
      String.ofList (Text.lower word) = w := by
  have hterm := (exists_parse_iff.mp ⟨a, h⟩).2
  rw [words, List.mem_append, mem_includes_iff h, mem_excludes_iff h]
  constructor
  · rintro (⟨word, hmem, hhead, rfl⟩ | ⟨word, hmem, rfl⟩)
    · rcases hterm word hmem with hword | ⟨word', rfl, -⟩
      · exact ⟨word, hword, Or.inl hmem, rfl⟩
      · exact absurd rfl hhead
    · rcases hterm _ hmem with hword | ⟨word', heq, hword⟩
      · exact absurd rfl hword.head?_ne
      · cases heq
        exact ⟨word, hword, Or.inr hmem, rfl⟩
  · rintro ⟨word, hword, hmem | hmem, rfl⟩
    · exact Or.inl ⟨word, hmem, hword.head?_ne, rfl⟩
    · exact Or.inr ⟨word, hmem, rfl⟩

theorem holdsStored : a.HoldsStored := by
  obtain ⟨hblank, hterm⟩ := exists_parse_iff.mp ⟨a, h⟩
  constructor
  case ne_nil =>
    rw [← Text.words_eq_nil_iff] at hblank
    obtain ⟨cs, hcs⟩ := List.exists_mem_of_ne_nil _ hblank
    rcases hterm cs hcs with hword | ⟨word, rfl, hword⟩
    · exact List.ne_nil_of_mem ((mem_words_iff h).mpr ⟨cs, hword, Or.inl hcs, rfl⟩)
    · exact List.ne_nil_of_mem ((mem_words_iff h).mpr ⟨word, hword, Or.inr hcs, rfl⟩)
  case stored =>
    intro w hw
    obtain ⟨word, hword, -, rfl⟩ := (mem_words_iff h).mp hw
    exact hword.isStored

/-- The dots of an alternative are left by the capitals of its piece. -/
theorem hasDot_iff : a.HasDot ↔ 'İ' ∈ piece := by
  have hblank : Text.isBlank 'İ' = false := by decide
  constructor
  · intro ⟨w, hw, hdot⟩
    obtain ⟨word, hword, hmem, rfl⟩ := (mem_words_iff h).mp hw
    rw [String.toList_ofList, hword.dot_mem_iff] at hdot
    rcases hmem with hmem | hmem
    · exact (Text.exists_mem_words_iff.mp ⟨_, hmem, hdot⟩).1
    · exact (Text.exists_mem_words_iff.mp ⟨_, hmem, List.mem_cons_of_mem _ hdot⟩).1
  · intro hpiece
    obtain ⟨cs, hcs, hmem⟩ := Text.exists_mem_words_iff.mpr ⟨hpiece, hblank⟩
    have hdot {word : List Char} (hword : IsFilterWord word) (hdotted : 'İ' ∈ word) :
        '\u0307' ∈ (String.ofList (Text.lower word)).toList := by
      rwa [String.toList_ofList, hword.dot_mem_iff]
    rcases (exists_parse_iff.mp ⟨a, h⟩).2 cs hcs with hword | ⟨word, rfl, hword⟩
    · exact ⟨_, (mem_words_iff h).mpr ⟨cs, hword, Or.inl hcs, rfl⟩, hdot hword hmem⟩
    · have hdotted : 'İ' ∈ word := by simpa using hmem
      exact ⟨_, (mem_words_iff h).mpr ⟨word, hword, Or.inr hcs, rfl⟩, hdot hword hdotted⟩

end Parsed

/-- A term is read as its word is, since no stored word begins with a tilde. -/
theorem parse_toList (hw : IsStored w) :
    FilterTerm.parse filter w.toList = (FilterTerm.parseWord filter w.toList).map (⟨false, ·⟩) := by
  unfold FilterTerm.parse
  split
  next word htilde =>
    exact absurd (htilde ▸ List.mem_cons_self) (hw.notMem (c := '~') (by simp))
  · rfl

namespace HoldsStored

variable (h : a.HoldsStored)
include h

theorem mem_written_cases (hcs : cs ∈ a.written) :
    ∃ w ∈ a.words, IsStored w ∧ (cs = w.toList ∨ cs = '~' :: w.toList) := by
  rcases List.mem_append.mp hcs with hcs | hcs
  · obtain ⟨w, hw, rfl⟩ := List.mem_map.mp hcs
    have hmem : w ∈ a.words := List.mem_append_left _ hw
    exact ⟨w, hmem, h.stored w hmem, Or.inl rfl⟩
  · obtain ⟨w, hw, rfl⟩ := List.mem_map.mp hcs
    have hmem : w ∈ a.words := List.mem_append_right _ hw
    exact ⟨w, hmem, h.stored w hmem, Or.inr rfl⟩

/-- The terms can be read off the text. -/
theorem words_text : Text.words a.text.toList = a.written := by
  rw [toList_text]
  refine Text.words_intercalate fun cs hcs => ?_
  obtain ⟨w, -, hw, rfl | rfl⟩ := h.mem_written_cases hcs
  · exact ⟨hw.ne_nil, hw.not_blank⟩
  · exact ⟨List.cons_ne_nil _ _, List.forall_mem_cons.mpr ⟨by decide, hw.not_blank⟩⟩

theorem comma_notMem_text : ',' ∉ a.text.toList := by
  intro hmem
  obtain ⟨cs, hcs, hcomma⟩ := Text.exists_mem_words_iff.mpr ⟨hmem, by decide⟩
  rw [h.words_text] at hcs
  obtain ⟨w, -, hw, rfl | rfl⟩ := h.mem_written_cases hcs
  · exact hw.notMem (c := ',') (by simp) hcomma
  · exact hw.notMem (c := ',') (by simp) (by simpa using hcomma)

theorem written_ne_nil : a.written ≠ [] := by
  intro hnil
  rw [written, List.append_eq_nil_iff, List.map_eq_nil_iff, List.map_eq_nil_iff] at hnil
  exact h.ne_nil (List.append_eq_nil_iff.mpr hnil)

theorem parseTerms_of_no_dot (hdot : ¬ a.HasDot) : parseTerms filter a.written = .ok a := by
  have hword {w : String} (hw : w ∈ a.words) : FilterTerm.parseWord filter w.toList = .ok w := by
    refine (h.stored w hw).parseWord_of_no_dot fun hmem => ?_
    exact hdot ⟨w, hw, hmem⟩
  have hterms : a.written.mapM (FilterTerm.parse filter) =
      .ok (a.includes.map (⟨false, ·⟩) ++ a.excludes.map (⟨true, ·⟩)) := by
    rw [Except.mapM_eq_ok_iff, written]
    refine List.rel_append ?_ ?_
    · rw [List.forall₂_map_left_iff, List.forall₂_map_right_iff, List.forall₂_same]
      intro w hw
      have hmem : w ∈ a.words := List.mem_append_left _ hw
      rw [parse_toList (h.stored w hmem), hword hmem]
      rfl
    · rw [List.forall₂_map_left_iff, List.forall₂_map_right_iff, List.forall₂_same]
      intro w hw
      rw [FilterTerm.parse, hword (List.mem_append_right _ hw)]
      rfl
  rw [parseTerms, if_neg (by simpa using h.written_ne_nil), hterms]
  simp [Except.map, ofTerms, List.filter_map, Function.comp_def]

theorem parseTerms_of_dot (hdot : a.HasDot) :
    parseTerms filter a.written = .error (.unexpectedCharacter '\u0307' filter) := by
  -- a term is read, or it is refused for its dot
  have hcases {w : String} (hw : w ∈ a.words) : FilterTerm.parseWord filter w.toList = .ok w ∨
      FilterTerm.parseWord filter w.toList = .error (.unexpectedCharacter '\u0307' filter) := by
    by_cases hmem : '\u0307' ∈ w.toList
    · exact Or.inr ((h.stored w hw).parseWord_of_dot hmem)
    · exact Or.inl ((h.stored w hw).parseWord_of_no_dot hmem)
  have hread : ∀ cs ∈ a.written, (∃ t, FilterTerm.parse filter cs = .ok t) ∨
      FilterTerm.parse filter cs = .error (.unexpectedCharacter '\u0307' filter) := by
    intro cs hcs
    obtain ⟨w, hw, hstored, rfl | rfl⟩ := h.mem_written_cases hcs
    · rw [parse_toList hstored]
      rcases hcases hw with heq | heq
      · exact Or.inl ⟨_, by rw [heq]; rfl⟩
      · exact Or.inr (by rw [heq]; rfl)
    · rw [FilterTerm.parse]
      rcases hcases hw with heq | heq
      · exact Or.inl ⟨_, by rw [heq]; rfl⟩
      · exact Or.inr (by rw [heq]; rfl)
  obtain ⟨w, hw, hmem⟩ := hdot
  have hrefused : ∃ cs ∈ a.written,
      FilterTerm.parse filter cs = .error (.unexpectedCharacter '\u0307' filter) := by
    have hword : FilterTerm.parseWord filter w.toList =
        .error (.unexpectedCharacter '\u0307' filter) := (h.stored w hw).parseWord_of_dot hmem
    rcases List.mem_append.mp hw with hw' | hw'
    · refine ⟨w.toList, List.mem_append_left _ (List.mem_map_of_mem hw'), ?_⟩
      rw [parse_toList (h.stored w hw), hword]
      rfl
    · refine ⟨'~' :: w.toList, List.mem_append_right _ (List.mem_map_of_mem hw'), ?_⟩
      rw [FilterTerm.parse, hword]
      rfl
  obtain ⟨cs, hcs, herror⟩ := hrefused
  rw [parseTerms, if_neg (by simpa using h.written_ne_nil),
    Except.mapM_eq_error hread hcs herror]
  rfl

end HoldsStored

end Alternative

/-! ### Filters -/

namespace KindFilter

open FilterTerm (IsFilterWord)

variable {expr : String} {f : KindFilter} {texts : List (List Char)}

/-- The filter holds alternatives, and these hold stored words. -/
structure HoldsStored (f : KindFilter) : Prop where
  ne_nil : f.alternatives ≠ []
  stored : ∀ a ∈ f.alternatives, a.HoldsStored

/-- A word was written with `İ`. -/
def HasDot (f : KindFilter) : Prop :=
  ∃ a ∈ f.alternatives, a.HasDot

theorem holdsStored_of_parse (h : parse expr = .ok f) (hblank : ¬ expr.toList.all Text.isBlank) :
    f.HoldsStored := by
  have hparse := (parse_eq_ok_iff hblank).mp h
  constructor
  case ne_nil =>
    obtain ⟨piece, hpiece⟩ := List.exists_mem_of_ne_nil _ (pieces_ne_nil expr)
    obtain ⟨a, ha, -⟩ := Except.exists_of_mapM_eq_ok hparse hpiece
    exact List.ne_nil_of_mem ha
  case stored =>
    intro a ha
    obtain ⟨piece, -, hpiece⟩ := Except.exists_of_mem_mapM hparse ha
    exact Alternative.holdsStored hpiece

/-- The dots of a filter are left by the capitals of its expression. -/
theorem hasDot_iff (h : parse expr = .ok f) : f.HasDot ↔ 'İ' ∈ expr.toList := by
  by_cases hblank : expr.toList.all Text.isBlank
  · have hall : f = all := Except.ok.inj (h.symm.trans (parse_of_blank hblank))
    have hno : 'İ' ∉ expr.toList := fun hmem =>
      absurd (List.all_eq_true.mp hblank _ hmem) (by decide)
    simp [hno, hall, HasDot, all]
  · have hparse := (parse_eq_ok_iff hblank).mp h
    -- the capital stands in the expression if it stands in one of its pieces
    have hpieces : (∃ piece ∈ pieces expr, 'İ' ∈ piece) ↔ 'İ' ∈ expr.toList := by
      rw [pieces, Text.exists_mem_splitOnP_iff]
      exact and_iff_left (by decide)
    rw [← hpieces]
    constructor
    · rintro ⟨a, ha, hdot⟩
      obtain ⟨piece, hpiece, hparse⟩ := Except.exists_of_mem_mapM hparse ha
      exact ⟨piece, hpiece, (Alternative.hasDot_iff hparse).mp hdot⟩
    · rintro ⟨piece, hpiece, hmem⟩
      obtain ⟨a, ha, hparse⟩ := Except.exists_of_mapM_eq_ok hparse hpiece
      exact ⟨a, ha, (Alternative.hasDot_iff hparse).mpr hmem⟩

/-! ### The text of a filter -/

/-- The words of joined texts can be read off their pieces. -/
theorem words_pieces_intercalate (hne : texts ≠ []) (h : ∀ cs ∈ texts, ',' ∉ cs) :
    (([',', ' '].intercalate texts).splitOnP (· == ',')).map Text.words =
      texts.map Text.words := by
  induction texts with
  | nil => exact absurd rfl hne
  | cons cs texts ih =>
    obtain ⟨hcs, htexts⟩ := List.forall_mem_cons.mp h
    have hno : ∀ c ∈ cs, (c == ',') = false := by
      intro c hc
      rw [beq_eq_false_iff_ne]
      rintro rfl
      exact hcs hc
    cases texts with
    | nil => rw [List.intercalate_singleton, List.splitOnP_eq_singleton hno]
    | cons ds texts =>
      have hrest := ih (List.cons_ne_nil ds texts) htexts
      rw [List.intercalate_cons_cons, List.append_assoc, List.cons_append, List.singleton_append,
        List.splitOnP_append_cons_of_forall_mem hno ',' (by decide), List.map_cons, List.map_cons,
        ← hrest, List.splitOnP_cons_eq_if_modifyHead, if_neg (by decide)]
      -- the space behind a comma goes to the next piece, where it does not matter
      obtain ⟨piece, rest, hsplit⟩ := List.exists_cons_of_ne_nil
        (List.splitOnP_ne_nil (· == ',') ([',', ' '].intercalate (ds :: texts)))
      have hspace : Text.words (' ' :: piece) = Text.words piece :=
        Text.words_append_cons (c := ' ') (by decide) [] piece
      rw [hsplit, List.modifyHead_cons, List.map_cons, List.map_cons, hspace]

theorem toList_text (f : KindFilter) :
    f.text.toList = [',', ' '].intercalate (f.alternatives.map (·.text.toList)) := by
  rw [text, String.toList_intercalate, List.map_map]
  rfl

namespace HoldsStored

variable (h : f.HoldsStored)
include h

/-- The pieces of the text have the terms of the alternatives. -/
theorem words_pieces_text :
    (pieces f.text).map Text.words = f.alternatives.map Alternative.written := by
  rw [pieces, toList_text, words_pieces_intercalate]
  · rw [List.map_map]
    exact List.map_congr_left fun a ha => (h.stored a ha).words_text
  · simpa using h.ne_nil
  · intro cs hcs
    obtain ⟨a, ha, rfl⟩ := List.mem_map.mp hcs
    exact (h.stored a ha).comma_notMem_text

theorem not_blank_text : ¬ f.text.toList.all Text.isBlank := by
  intro hblank
  have hwords := h.words_pieces_text
  rw [pieces_of_blank hblank, List.map_singleton, Text.words_eq_nil_iff.mpr hblank] at hwords
  -- a blank text would be an alternative without terms
  obtain ⟨a, ha, hnil⟩ := List.mem_map.mp (hwords ▸ List.mem_singleton_self [])
  exact (h.stored a ha).written_ne_nil hnil

/-- The text is read alternative by alternative. -/
theorem parse_text_eq : parse f.text =
    (f.alternatives.mapM fun a => Alternative.parseTerms f.text a.written).map (⟨·⟩) := by
  have hterms : (Alternative.parse f.text : List Char → _) =
      Alternative.parseTerms f.text ∘ Text.words :=
    funext fun _ => Alternative.parse_eq_parseTerms
  rw [parse, if_neg h.not_blank_text, ← pieces, hterms, ← List.mapM_map, h.words_pieces_text,
    List.mapM_map]
  rfl

theorem parse_text_of_no_dot (hdot : ¬ f.HasDot) : parse f.text = .ok f := by
  have hread : f.alternatives.mapM (fun a => Alternative.parseTerms f.text a.written) =
      .ok (f.alternatives.map id) := by
    refine Except.mapM_eq_ok fun a ha => (h.stored a ha).parseTerms_of_no_dot ?_
    exact fun hmem => hdot ⟨a, ha, hmem⟩
  rw [h.parse_text_eq, hread, List.map_id]
  rfl

theorem parse_text_of_dot (hdot : f.HasDot) :
    parse f.text = .error (.unexpectedCharacter '\u0307' f.text) := by
  have hread : ∀ a ∈ f.alternatives,
      (∃ b, Alternative.parseTerms f.text a.written = .ok b) ∨
        Alternative.parseTerms f.text a.written =
          .error (.unexpectedCharacter '\u0307' f.text) := by
    intro a ha
    by_cases hmem : a.HasDot
    · exact Or.inr ((h.stored a ha).parseTerms_of_dot hmem)
    · exact Or.inl ⟨a, (h.stored a ha).parseTerms_of_no_dot hmem⟩
  obtain ⟨a, ha, hmem⟩ := hdot
  rw [h.parse_text_eq, Except.mapM_eq_error hread ha ((h.stored a ha).parseTerms_of_dot hmem)]
  rfl

end HoldsStored

/-- The filter of an expression is read back from its text exactly if the expression does not hold
the capital `İ`; otherwise the text is refused for the combining dot of its image. The words of the
filter are in lower case, and without that capital they may be written again. The text of the
filter that selects every kind is read back, too. -/
theorem read_back (h : parse expr = .ok f) :
    (parse f.text = .ok f ↔ 'İ' ∉ expr.toList) ∧
    ('İ' ∈ expr.toList → parse f.text = .error (.unexpectedCharacter '\u0307' f.text)) ∧
    (∀ a ∈ f.alternatives, ∀ w ∈ a.includes ++ a.excludes, Text.lower w.toList = w.toList ∧
      ('İ' ∉ expr.toList → IsFilterWord w.toList)) ∧
    parse all.text = .ok all := by
  have hempty : parse all.text = .ok all := rfl
  by_cases hblank : expr.toList.all Text.isBlank
  · have hall : f = all := Except.ok.inj (h.symm.trans (parse_of_blank hblank))
    have hno : 'İ' ∉ expr.toList := fun hmem =>
      absurd (List.all_eq_true.mp hblank _ hmem) (by decide)
    rw [hall]
    exact ⟨iff_of_true hempty hno, fun hmem => absurd hmem hno, by simp [all], hempty⟩
  · have hstored := holdsStored_of_parse h hblank
    have hrefused : 'İ' ∈ expr.toList →
        parse f.text = .error (.unexpectedCharacter '\u0307' f.text) := fun hmem =>
      hstored.parse_text_of_dot ((hasDot_iff h).mpr hmem)
    refine ⟨?_, hrefused, fun a ha w hw => ?_, hempty⟩
    · constructor
      · intro hread hmem
        cases hread.symm.trans (hrefused hmem)
      · intro hno
        exact hstored.parse_text_of_no_dot (mt (hasDot_iff h).mp hno)
    · have hword := (hstored.stored a ha).stored w hw
      refine ⟨hword.lowered, fun hno => hword.isFilterWord_iff.mpr fun hdot => ?_⟩
      exact hno ((hasDot_iff h).mp ⟨a, ha, w, hw, hdot⟩)

theorem read_back_class : ∃ f, parse "Class ~Unknown, ΟΔΟΣ" = .ok f ∧
    f.text = "class ~unknown, οδος" ∧ parse f.text = .ok f := by
  have hparse : parse "Class ~Unknown, ΟΔΟΣ" =
      .ok ⟨[⟨["class"], ["unknown"]⟩, ⟨["οδος"], []⟩]⟩ := by
    decide +kernel
  exact ⟨_, hparse, rfl, (read_back hparse).1.mpr (by simp)⟩

/-- The lower-case form of `İ` is an `i` with a dot, which may not stand in a filter. -/
theorem dotted_refused : ∃ f, parse "İ" = .ok f ∧ f.text = "i\u0307" ∧
    parse f.text = .error (.unexpectedCharacter '\u0307' "i\u0307") := by
  refine ⟨_, rfl, rfl, ?_⟩
  decide +kernel

end KindFilter

end CodeGraph
