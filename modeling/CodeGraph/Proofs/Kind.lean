import CodeGraph.Kind
import CodeGraph.Proofs.Text.LowerCase
import CodeGraph.Proofs.Text.Words
import Mathlib.Data.List.GetD

/-!
# Words of inverse relations

The inverse of a relation has the words of the relation, one of which has taken an ending. If the
relation has at most one verb, its inverse carries a verb with its ending exactly if the relation
carries the verb, and it carries no verb without ending. A second verb would be left as it is.

## Main definitions

* `Kind.AtMostOneVerb` — at most one word is a relation verb
* `Kind.IsForward` — no word is a verb with its ending
* `Kind.IsToldApart` — each verb tells the relation from its inverse

## Main results

* `Kind.exists_words_inverse` — the words of the inverse
* `Kind.hasWord_inverse_iff` — when the inverse carries a verb with its ending
* `Kind.isToldApart_iff` — a forward relation is told from its inverse if it has one verb at most
-/

namespace CodeGraph

namespace Kind

variable {k : Kind} {v w : String}

/-- At most one word of the kind is a relation verb. -/
def AtMostOneVerb (k : Kind) : Prop :=
  (k.words.filter relationVerbs.contains).length ≤ 1

theorem hasWord_iff : k.hasWord w ↔ w ∈ k.words := by
  rw [hasWord, List.contains_iff_mem]

theorem verbIndex_lt (h : k.words ≠ []) : k.verbIndex < k.words.length := by
  have hpos := List.length_pos_iff.mpr h
  rw [verbIndex]
  cases hfind : k.words.findIdx? relationVerbs.contains with
  | none =>
    rw [Option.getD_none]
    omega
  | some i => exact (List.findIdx?_eq_some_iff_findIdx_eq.mp hfind).1

theorem ofName_name (name : String) : (ofName name).name = name :=
  rfl

/-! ### The name of the inverse -/

theorem toList_inverseName (k : Kind) : k.inverseName.toList = [' '].intercalate
    ((Text.words k.name.toList).modify k.verbIndex
      (· ++ (inverseEnding (k.words.getD k.verbIndex "")).toList)) := by
  rw [inverseName, String.toList_intercalate]
  congr 1
  refine List.ext_getElem (by simp) fun i hi hi' => ?_
  simp only [List.getElem_map, List.getElem_mapIdx, List.getElem_modify, eq_comm (a := i)]
  split
  next heq => simp [heq]
  · simp

theorem inverseEnding_eq (v : String) : inverseEnding v = "in" ∨ inverseEnding v = "by" := by
  unfold inverseEnding
  split
  · exact Or.inl rfl
  · exact Or.inr rfl

/-- An ending is a word in lower case. -/
theorem isWord_inverseEnding (v : String) : Text.IsWord (inverseEnding v).toList := by
  rcases inverseEnding_eq v with h | h <;> rw [h] <;> exact Text.isWord_iff.mpr (by decide)

theorem length_inverseEnding (v : String) : (inverseEnding v).toList.length = 2 := by
  rcases inverseEnding_eq v with h | h <;> rw [h] <;> rfl

theorem lowerAfter_inverseEnding (v : String) (before : List Char) :
    Text.lowerAfter before (inverseEnding v).toList = (inverseEnding v).toList := by
  rcases inverseEnding_eq v with h | h <;> rw [h] <;> rfl

theorem words_inverse (h : k.words ≠ []) : k.inverse.words =
    ((Text.words k.name.toList).modify k.verbIndex
      (· ++ (inverseEnding (k.words.getD k.verbIndex "")).toList)).map
        fun w => String.ofList (Text.lower w) := by
  rw [inverse, if_neg (by simpa using h), words_eq, ofName_name, toList_inverseName,
    Text.words_intercalate]
  -- the words are joined by spaces, so they can be read back if the ending adds no blank
  intro w hw
  obtain ⟨i, hi, rfl⟩ := List.getElem_of_mem hw
  rw [List.length_modify] at hi
  have hword := Text.isWord_of_mem_words (List.getElem_mem hi)
  rw [List.getElem_modify]
  split
  · refine ⟨by simp [hword.ne_nil], fun c hc => ?_⟩
    rcases List.mem_append.mp hc with hc | hc
    · exact hword.not_blank c hc
    · exact (isWord_inverseEnding _).not_blank c hc
  · exact hword

theorem not_hasSigma_of_mem_relationVerbs (h : v ∈ relationVerbs) :
    ¬ Text.HasSigma v.toList := by
  unfold Text.HasSigma
  revert v
  decide

/-- The inverse has the words of the relation, except for one that has taken its ending. Its stem is
a verb exactly if it is that verb without the ending. -/
theorem exists_words_inverse (h : k.words ≠ []) : ∃ stem, k.inverse.words =
    k.words.set k.verbIndex (stem ++ inverseEnding (k.words.getD k.verbIndex "")) ∧
      ∀ v ∈ relationVerbs, stem = v ↔ k.words.getD k.verbIndex "" = v := by
  have hlt := verbIndex_lt h
  have hlength : k.words.length = (Text.words k.name.toList).length := by
    rw [k.words_eq, List.length_map]
  have hpart : k.verbIndex < (Text.words k.name.toList).length := hlength ▸ hlt
  have hword : k.words.getD k.verbIndex "" =
      String.ofList (Text.lower (Text.words k.name.toList)[k.verbIndex]) := by
    rw [List.getD_eq_getElem _ _ hlt]
    simp only [k.words_eq, List.getElem_map]
  obtain ⟨stem, hstem, hsame⟩ := Text.exists_lower_append
    (lowerAfter_inverseEnding (k.words.getD k.verbIndex ""))
    (Text.words k.name.toList)[k.verbIndex]
  refine ⟨String.ofList stem, ?_, fun v hv => ?_⟩
  · rw [words_inverse h]
    refine List.ext_getElem (by simp [hlength]) fun i hi hi' => ?_
    rw [List.getElem_map, List.getElem_modify, List.getElem_set]
    split
    next heq =>
      subst heq
      rw [hstem, String.ofList_append, String.ofList_toList]
    · simp only [k.words_eq, List.getElem_map]
  · rw [hword]
    rcases hsame with heq | ⟨hstem, hlower⟩
    · rw [heq]
    · -- a sigma may be lowered in two ways, but no verb holds one
      have hsigma := not_hasSigma_of_mem_relationVerbs hv
      constructor
      · rintro rfl
        exact absurd (by simpa using hstem) hsigma
      · intro heq
        rw [← heq, String.toList_ofList] at hsigma
        exact absurd hlower hsigma

/-- Only verbs take the ending `in`, and no verb is made by it. -/
theorem verb_of_inverseEnding_eq_in (h : inverseEnding w = "in") :
    w ∈ relationVerbs ∧ w ++ "in" ∉ relationVerbs := by
  have hverbs : ∀ v ∈ ["define", "declare", "contain"],
      v ∈ relationVerbs ∧ v ++ "in" ∉ relationVerbs := by
    decide
  unfold inverseEnding at h
  split at h
  next hmem => exact hverbs w (List.contains_iff_mem.mp hmem)
  · exact absurd h (by decide)

/-- A word that has taken its ending is no verb. The verb `contain` does end in `in`, but its front
takes the other ending. -/
theorem append_inverseEnding_ne {stem : String} (hstem : ∀ v ∈ relationVerbs, stem = v ↔ w = v)
    (hv : v ∈ relationVerbs) : stem ++ inverseEnding w ≠ v := by
  rintro rfl
  rcases inverseEnding_eq w with hending | hending
  · obtain ⟨hverb, hno⟩ := verb_of_inverseEnding_eq_in hending
    rw [hending, (hstem w hverb).mpr rfl] at hv
    exact hno hv
  · have hby : ∀ v ∈ relationVerbs, ¬ "by".toList <:+ v.toList := by decide
    refine hby _ hv ?_
    rw [hending, String.toList_append]
    exact List.suffix_append _ _

/-- The inverse carries a verb exactly if the relation does so at another place than that of the
ending. -/
theorem hasWord_inverse_verb_iff (hv : v ∈ relationVerbs) :
    k.inverse.hasWord v ↔ ∃ i, i ≠ k.verbIndex ∧ k.words[i]? = some v := by
  by_cases hnil : k.words = []
  · have hinverse : k.inverse = k := by simp [inverse, hnil]
    simp [hinverse, hasWord, hnil]
  · obtain ⟨stem, hwords, hstem⟩ := exists_words_inverse hnil
    rw [hasWord_iff, hwords, List.mem_iff_getElem?]
    refine exists_congr fun i => ?_
    rw [List.getElem?_set]
    split
    next heq =>
      subst heq
      simp only [if_pos (verbIndex_lt hnil), Option.some.injEq, append_inverseEnding_ne hstem hv,
        ne_eq, not_true_eq_false, false_and]
    next hne => simp [Ne.symm hne]

/-- If the relation does not carry a verb with its ending, its inverse does so exactly if the verb
takes the ending. -/
theorem hasWord_inverse_ending_iff (hv : v ∈ relationVerbs)
    (hno : ¬ k.hasWord (v ++ inverseEnding v)) :
    k.inverse.hasWord (v ++ inverseEnding v) ↔ k.words.getD k.verbIndex "" = v := by
  by_cases hnil : k.words = []
  · have hinverse : k.inverse = k := by simp [inverse, hnil]
    have hne : ¬ "" = v := by
      rintro rfl
      revert hv
      decide
    simp [hinverse, hasWord, hnil, hne]
  · obtain ⟨stem, hwords, hstem⟩ := exists_words_inverse hnil
    have hlt := verbIndex_lt hnil
    rw [hasWord_iff, hwords]
    constructor
    · intro hmem
      rcases List.mem_or_eq_of_mem_set hmem with hmem | heq
      · exact absurd (hasWord_iff.mpr hmem) hno
      · -- endings have one length, so equal words have equal stems
        have hending : (inverseEnding v).toList.length =
            (inverseEnding (k.words.getD k.verbIndex "")).toList.length := by
          rw [length_inverseEnding, length_inverseEnding]
        have hlist := congrArg String.toList heq
        rw [String.toList_append, String.toList_append] at hlist
        have hsame := (List.append_inj' hlist hending).1
        exact (hstem v hv).mp (String.toList_inj.mp hsame.symm)
    · intro hword
      rw [(hstem v hv).mpr hword, hword]
      exact List.mem_set hlt _

/-! ### Relations with one verb -/

theorem atMostOneVerb_iff : k.AtMostOneVerb ↔
    k.words.Pairwise fun v w => ¬ (v ∈ relationVerbs ∧ w ∈ relationVerbs) := by
  constructor
  · intro h
    refine List.pairwise_iff_forall_sublist.mpr fun {v w} hsub hverbs => ?_
    have hboth : [v, w].filter relationVerbs.contains = [v, w] := by
      simp [hverbs.1, hverbs.2]
    have hlength := (hsub.filter relationVerbs.contains).length_le
    rw [hboth] at hlength
    exact absurd (Nat.le_trans hlength h) (by simp)
  · intro h
    rw [AtMostOneVerb]
    have hverbs : ∀ v ∈ k.words.filter relationVerbs.contains, v ∈ relationVerbs := fun v hv =>
      List.contains_iff_mem.mp (List.mem_filter.mp hv).2
    cases hfilter : k.words.filter relationVerbs.contains with
    | nil => simp
    | cons v rest =>
      cases rest with
      | nil => simp
      | cons w rest =>
        have hpair := h.filter relationVerbs.contains
        rw [hfilter] at hpair hverbs
        refine absurd ⟨hverbs v ?_, hverbs w ?_⟩ ((List.pairwise_cons.mp hpair).1 w ?_) <;> simp

/-- Verbs of a relation with one verb stand at one place. -/
theorem AtMostOneVerb.eq_of_getElem? (h : k.AtMostOneVerb) {i j : Nat} (hv : v ∈ relationVerbs)
    (hw : w ∈ relationVerbs) (hi : k.words[i]? = some v) (hj : k.words[j]? = some w) : i = j := by
  obtain ⟨hilt, rfl⟩ := List.getElem?_eq_some_iff.mp hi
  obtain ⟨hjlt, rfl⟩ := List.getElem?_eq_some_iff.mp hj
  have hpair := List.pairwise_iff_getElem.mp (atMostOneVerb_iff.mp h)
  rcases Nat.lt_trichotomy i j with hlt | heq | hlt
  · exact absurd ⟨hv, hw⟩ (hpair i j hilt hjlt hlt)
  · exact heq
  · exact absurd ⟨hw, hv⟩ (hpair j i hjlt hilt hlt)

/-- Of a relation with one verb, that verb takes the ending. -/
theorem getD_verbIndex_eq_iff (h : k.AtMostOneVerb) (hv : v ∈ relationVerbs) :
    k.words.getD k.verbIndex "" = v ↔ k.hasWord v := by
  rw [hasWord_iff]
  constructor
  · intro heq
    have hne : k.words ≠ [] := by
      intro hnil
      rw [hnil, List.getD_nil] at heq
      subst heq
      revert hv
      decide
    rw [List.getD_eq_getElem _ _ (verbIndex_lt hne)] at heq
    exact heq ▸ List.getElem_mem _
  · intro hmem
    have hverb : relationVerbs.contains v := List.contains_iff_mem.mpr hv
    cases hfind : k.words.findIdx? relationVerbs.contains with
    | none =>
      have hnone := List.findIdx?_eq_none_iff.mp hfind v hmem
      rw [hverb] at hnone
      exact absurd hnone (by decide)
    | some i =>
      -- the first verb and `v` both stand among the verbs, of which there is one at most
      obtain ⟨hi, hfirst, -⟩ := List.findIdx?_eq_some_iff_getElem.mp hfind
      rw [verbIndex, hfind, Option.getD_some, List.getD_eq_getElem _ _ hi]
      have hfirstmem : k.words[i] ∈ k.words.filter relationVerbs.contains :=
        List.mem_filter.mpr ⟨List.getElem_mem hi, hfirst⟩
      have hvmem : v ∈ k.words.filter relationVerbs.contains := List.mem_filter.mpr ⟨hmem, hverb⟩
      cases hfilter : k.words.filter relationVerbs.contains with
      | nil => simp [hfilter] at hvmem
      | cons w rest =>
        have hrest : rest = [] := by
          rw [AtMostOneVerb, hfilter, List.length_cons] at h
          exact List.eq_nil_of_length_eq_zero (by omega)
        rw [hfilter, hrest, List.mem_singleton] at hfirstmem hvmem
        rw [hfirstmem, hvmem]

/-- The inverse of a relation with one verb carries a verb with its ending exactly if the relation
carries the verb. -/
theorem hasWord_inverse_iff (h : k.AtMostOneVerb) (hv : v ∈ relationVerbs)
    (hno : ¬ k.hasWord (v ++ inverseEnding v)) :
    k.inverse.hasWord (v ++ inverseEnding v) ↔ k.hasWord v := by
  rw [hasWord_inverse_ending_iff hv hno, getD_verbIndex_eq_iff h hv]

/-- The inverse of a relation with one verb carries no verb, as this one takes the ending. -/
theorem AtMostOneVerb.not_hasWord_inverse (h : k.AtMostOneVerb) (hv : v ∈ relationVerbs) :
    ¬ k.inverse.hasWord v := by
  intro hmem
  obtain ⟨n, hne, hn⟩ := (hasWord_inverse_verb_iff hv).mp hmem
  have hword : k.hasWord v := hasWord_iff.mpr (List.mem_of_getElem? hn)
  have hnil : k.words ≠ [] := by
    rintro hnil
    simp [hnil] at hn
  -- the verb that takes the ending is `v` itself, so that `v` would stand at two places
  have hfirst := (getD_verbIndex_eq_iff h hv).mpr hword
  rw [List.getD_eq_getElem _ _ (verbIndex_lt hnil)] at hfirst
  exact hne (h.eq_of_getElem? hv hv hn (hfirst ▸ List.getElem?_eq_getElem _))

/-! ### Telling a relation from its inverse -/

/-- No word of the kind is a verb with its ending, so that it names no inverse relation. -/
def IsForward (k : Kind) : Prop :=
  ∀ v ∈ relationVerbs, ¬ k.hasWord (v ++ inverseEnding v)

/-- By each verb the relation and its inverse are told apart: the inverse carries the verb with its
ending if the relation carries the verb, and never the verb itself. -/
def IsToldApart (k : Kind) : Prop :=
  ∀ v ∈ relationVerbs, ¬ k.inverse.hasWord v ∧
    (k.inverse.hasWord (v ++ inverseEnding v) ↔ k.hasWord v)

/-- A forward relation is told from its inverse exactly if it has at most one verb, since a second
verb takes no ending. -/
theorem isToldApart_iff (h : k.IsForward) : k.IsToldApart ↔ k.AtMostOneVerb := by
  constructor
  · intro hapart
    refine atMostOneVerb_iff.mpr (List.pairwise_iff_getElem.mpr fun i j hi hj hij hverbs => ?_)
    -- a verb is kept by the inverse unless it takes the ending, and only one of the two does
    have hindex : ∀ n (hn : n < k.words.length), k.words[n] ∈ relationVerbs → n = k.verbIndex := by
      intro n hn hverb
      refine Classical.byContradiction fun hne => ?_
      refine (hapart _ hverb).1 ((hasWord_inverse_verb_iff hverb).mpr ⟨n, hne, ?_⟩)
      exact List.getElem?_eq_getElem hn
    have hsame : i = j := (hindex i hi hverbs.1).trans (hindex j hj hverbs.2).symm
    omega
  · exact fun hone v hv => ⟨hone.not_hasWord_inverse hv, hasWord_inverse_iff hone hv (h v hv)⟩

end Kind

end CodeGraph
