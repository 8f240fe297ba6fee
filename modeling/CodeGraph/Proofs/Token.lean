import CodeGraph.Proofs.Position
import CodeGraph.Token

/-!
# The extent of a token

A token reaches from the position of its first character to that of its last. So the tokens of the
pieces of a text cover the text, and none reaches into the next.

## Main definitions

* `Token.cut` — the tokens of consecutive pieces of a text
* `Token.Tile` — tokens that cover a text without overlap

## Main results

* `Token.starting_exact` — where a token ends, and how consecutive tokens fit together
-/

namespace CodeGraph.Token

variable {p x : Position} {t : Token} {text : String} {pieces : List (TokenCategory × String)}

/-- The token reaches over the position. -/
def Covers (t : Token) (x : Position) : Prop :=
  ¬ x.Before t.first ∧ ¬ t.last.Before x

theorem covers_starting (h : p.Fits text.toList) (hx : x ∈ p.places text.toList)
    (category : TokenCategory) (entity : Option EntityId) :
    (starting category text p entity).Covers x := by
  constructor
  · rcases h.eq_or_before_of_mem_places hx with rfl | hbefore
    · exact Position.not_before_self x
    · exact hbefore.not_before
  · rcases h.eq_or_before_ofLast hx with rfl | hbefore
    · exact Position.not_before_self _
    · exact hbefore.not_before

/-! ### Consecutive tokens -/

/-- The text that is made of the pieces. -/
def textOf (pieces : List (TokenCategory × String)) : List Char :=
  pieces.flatMap (·.2.toList)

/-- The tokens of consecutive pieces of a text that starts at `p`. -/
def cut (p : Position) : List (TokenCategory × String) → List Token
  | [] => []
  | (category, text) :: pieces =>
    starting category text p none :: cut (p.after text.toList) pieces

/-- The tokens cover the text `cs` that starts at `p`, and each ends before the later ones start. -/
structure Tile (ts : List Token) (p : Position) (cs : List Char) : Prop where
  covered : ∀ x ∈ p.places cs, ∃ t ∈ ts, t.Covers x
  apart : ts.Pairwise fun t t' => t.last.Before t'.first
  first : ∀ t ∈ ts.head?, t.first = p
  last : ∀ t ∈ ts.getLast?, t.last = p.ofLast cs

theorem first_mem_places (hne : ∀ piece ∈ pieces, piece.2 ≠ "") (ht : t ∈ cut p pieces) :
    t.first ∈ p.places (textOf pieces) := by
  induction pieces generalizing p with
  | nil => cases ht
  | cons piece pieces ih =>
    obtain ⟨hpiece, hpieces⟩ := List.forall_mem_cons.mp hne
    rw [textOf, List.flatMap_cons, Position.places_append]
    rcases List.mem_cons.mp ht with rfl | ht
    · have htext : piece.2.toList ≠ [] := by simpa using hpiece
      exact List.mem_append_left _ (Position.start_mem_places htext)
    · exact List.mem_append_right _ (ih hpieces ht)

theorem textOf_ne_nil (hne : ∀ piece ∈ pieces, piece.2 ≠ "") (h : pieces ≠ []) :
    textOf pieces ≠ [] := by
  obtain ⟨piece, pieces, rfl⟩ := List.exists_cons_of_ne_nil h
  have hpiece := hne piece List.mem_cons_self
  simp [textOf, hpiece]

/-- The tokens of the pieces of a text cover it and do not overlap. -/
theorem tile_cut (hne : ∀ piece ∈ pieces, piece.2 ≠ "") (h : p.Fits (textOf pieces)) :
    Tile (cut p pieces) p (textOf pieces) := by
  induction pieces generalizing p with
  | nil => exact ⟨by simp [textOf, Position.places], .nil, by simp [cut], by simp [cut]⟩
  | cons piece pieces ih =>
    obtain ⟨category, text⟩ := piece
    obtain ⟨hpiece, hpieces⟩ := List.forall_mem_cons.mp hne
    have htext : text.toList ≠ [] := by simpa using hpiece
    rw [textOf, List.flatMap_cons, ← textOf] at h ⊢
    obtain ⟨hfirst, hrest⟩ := h.of_append
    have htile := ih hpieces hrest
    have hpairwise := h.pairwise_places
    rw [Position.places_append, List.pairwise_append] at hpairwise
    constructor
    case covered =>
      intro x hx
      rw [Position.places_append] at hx
      rcases List.mem_append.mp hx with hx | hx
      · exact ⟨_, List.mem_cons_self, covers_starting hfirst hx category none⟩
      · obtain ⟨t, ht, hcovers⟩ := htile.covered x hx
        exact ⟨t, List.mem_cons_of_mem _ ht, hcovers⟩
    case apart =>
      refine List.pairwise_cons.mpr ⟨fun t ht => ?_, htile.apart⟩
      exact hpairwise.2.2 _ (Position.ofLast_mem_places htext) _ (first_mem_places hpieces ht)
    case first =>
      intro t ht
      obtain rfl := Option.some.inj ht
      rfl
    case last =>
      intro t ht
      cases pieces with
      | nil =>
        obtain rfl := Option.some.inj ht
        simp [cut, starting, textOf]
      | cons piece pieces =>
        rw [Position.ofLast_append _ _ (textOf_ne_nil hpieces (List.cons_ne_nil _ _))]
        rw [cut, cut, List.getLast?_cons_cons] at ht
        exact htile.last t ht

/-- The token of an empty text ends where it starts, any other ends at its last character. The end
does not depend on where in its text the token was begun, and the tokens of consecutive pieces cover
the text without overlap. -/
theorem starting_exact (p : Position) :
    (∀ category entity, (starting category "" p entity).last = p) ∧
    (∀ category text entity, text ≠ "" → p.Fits text.toList →
      let before := text.toList.dropLast
      let last := (starting category text p entity).last
      last.line.toNat = p.line.toNat + before.count '\n' ∧
      last.column.toNat = if '\n' ∈ before then (before.rtakeWhile (· ≠ '\n')).length + 1
        else p.column.toNat + (text.length - 1)) ∧
    (∀ category a b entity, b ≠ "" → (starting category (a ++ b) p entity).last =
      (starting category b (p.after a.toList) entity).last) ∧
    (∀ pieces, (∀ piece ∈ pieces, piece.2 ≠ "") → p.Fits (textOf pieces) →
      Tile (cut p pieces) p (textOf pieces)) := by
  refine ⟨fun _ _ => rfl, fun category text entity hne h => ?_, fun category a b entity hb => ?_,
    fun pieces => tile_cut⟩
  · have htext : text.toList ≠ [] := by simpa using hne
    obtain ⟨cs, c, hcs⟩ := (List.eq_nil_or_concat' text.toList).resolve_left htext
    rw [hcs, Position.fits_concat] at h
    have hlength : text.length - 1 = cs.length := by
      rw [← String.length_toList, hcs]
      simp
    simp only [starting, Position.ofLast, hcs, List.dropLast_concat, hlength]
    exact ⟨h.line_after, h.column_after⟩
  · have hne : b.toList ≠ [] := by simpa using hb
    simp only [starting, String.toList_append]
    exact Position.ofLast_append p a.toList hne

/-- A comment over two lines and what follows it. -/
def commentedLine : List (TokenCategory × String) :=
  [(.comment, "/* a\nbc */"), (.newline, "\n"), (.identifier, "Foo")]

/-- The comment ends in its second line, and the line break ends at itself. -/
theorem starting_exact_commentedLine :
    let comment := starting .comment "/* a\nbc */" ⟨1, 1⟩ none
    (comment.last.line.toNat = 2 ∧ comment.last.column.toNat = 5) ∧
    (cut ⟨1, 1⟩ commentedLine).map (fun t => (t.first, t.last)) =
      [(⟨1, 1⟩, ⟨2, 5⟩), (⟨2, 6⟩, ⟨2, 6⟩), (⟨3, 1⟩, ⟨3, 3⟩)] ∧
    Tile (cut ⟨1, 1⟩ commentedLine) ⟨1, 1⟩ (textOf commentedLine) := by
  obtain ⟨-, hends, -, htile⟩ := starting_exact ⟨1, 1⟩
  obtain ⟨hline, hcolumn⟩ := hends .comment "/* a\nbc */" none (by decide) (by decide +kernel)
  exact ⟨⟨hline.trans (by decide +kernel), hcolumn.trans (by decide +kernel)⟩, by decide +kernel,
    htile commentedLine (by decide) (by decide +kernel)⟩

end CodeGraph.Token
