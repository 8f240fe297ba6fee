import CodeGraph.Proofs.KindFilter.ReadBack
import CodeGraph.Proofs.Session.Start

/-!
# Filters of one word

A word of small letters is the expression of the filter that wants this word. The references of an
entity are the edges seen from it whose relation and far end two filters select.

## Main definitions

* `Text.IsPlain` — a text of small letters

## Main results

* `Session.parse_of_isPlain` — a plain word is the filter of this word
* `Session.IsOver.refs_eq_ok` — the references that two filters select
-/

namespace CodeGraph

namespace Text

variable {c : Char} {cs : List Char}

/-- The letters that kind words are made of, if they are plain. -/
def smallLetters : List Char :=
  "abcdefghijklmnopqrstuvwxyz".toList

/-- The text is made of small letters, one at least. -/
structure IsPlain (cs : List Char) : Prop where
  ne_nil : cs ≠ []
  small : ∀ c ∈ cs, c ∈ smallLetters

theorem isPlain_iff : IsPlain cs ↔ cs ≠ [] ∧ cs.all smallLetters.contains := by
  rw [List.all_eq_true]
  constructor
  · intro h
    exact ⟨h.ne_nil, fun c hc => List.contains_iff_mem.mpr (h.small c hc)⟩
  · intro h
    exact ⟨h.1, fun c hc => List.contains_iff_mem.mp (h.2 c hc)⟩

instance (cs : List Char) : Decidable (IsPlain cs) :=
  decidable_of_iff _ isPlain_iff.symm

theorem isWordChar_of_mem_smallLetters (h : c ∈ smallLetters) : FilterTerm.isWordChar c := by
  have hall : smallLetters.all FilterTerm.isWordChar := by decide +kernel
  exact List.all_eq_true.mp hall c h

theorem isLowered_of_mem_smallLetters (h : c ∈ smallLetters) : IsLowered c := by
  have hall : smallLetters.all fun c => lowerChar c == c := by decide +kernel
  constructor
  case image => simpa using List.all_eq_true.mp hall c h
  case ne_sigma =>
    rintro rfl
    exact absurd h (by decide)
  case ne_dotted =>
    rintro rfl
    exact absurd h (by decide)

end Text

namespace Session

variable {s : Session} {db : Database} {config : Config} {e : Entity} {w : String}
  {kinds entityKinds : Option String} {relations ends : KindFilter} {unique : Bool}

theorem selects_all (k : Kind) : KindFilter.all.selects k = true :=
  rfl

/-- A filter holds a plain word as it stands. -/
theorem isStored_of_isPlain (h : Text.IsPlain w.toList) : FilterTerm.IsStored w := by
  constructor
  case ne_nil => exact h.ne_nil
  case lowered =>
    exact Text.lowerAfter_of_isLowered
      (fun c hc => Text.isLowered_of_mem_smallLetters (h.small c hc)) []
  case wordChar => exact fun c hc => Or.inl (Text.isWordChar_of_mem_smallLetters (h.small c hc))

/-- A plain word is the text of the filter of this word, and so its expression. -/
theorem parse_of_isPlain (h : Text.IsPlain w.toList) : KindFilter.parse w = .ok (wordFilter w) := by
  have htext : (wordFilter w).text = w := by
    simp [wordFilter, KindFilter.text, Alternative.text]
  have hstored : (wordFilter w).HoldsStored := by
    refine ⟨List.cons_ne_nil _ _, List.forall_mem_singleton.mpr ?_⟩
    exact ⟨List.cons_ne_nil _ _, List.forall_mem_singleton.mpr (isStored_of_isPlain h)⟩
  have hdot : ¬ (wordFilter w).HasDot := by
    rintro ⟨a, ha, w', hw', hmem⟩
    obtain rfl := List.mem_singleton.mp ha
    obtain rfl := List.mem_singleton.mp hw'
    exact absurd (h.small _ hmem) (by decide)
  have hparse := hstored.parse_text_of_no_dot hdot
  rwa [htext] at hparse

/-- The references that two filters select. -/
theorem IsOver.refs_eq_ok (h : s.IsOver db config) (he : e ∈ db.entities)
    (hrelations : KindFilter.parse? kinds = .ok relations)
    (hends : KindFilter.parse? entityKinds = .ok ends) :
    s.refs e.id kinds entityKinds unique = .ok (
      if unique then
        (firstOfKey pairing [] (s.selectedEdges e.id relations ends)).mergeSort byFarEnd
      else s.selectedEdges e.id relations ends) := by
  rw [refs, hrelations, hends]
  simp only [refsBy, h.queried he, bind, Except.bind, pure, Except.pure]

end Session

end CodeGraph
