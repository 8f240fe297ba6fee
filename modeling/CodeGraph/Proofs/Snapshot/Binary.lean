import CodeGraph.Proofs.Binary
import CodeGraph.Snapshot.Binary

/-!
# Snapshots in binary form are exact

A snapshot is read from the front of some bytes exactly if they begin with its binary form. The
lengths of its texts and lists are written in eight bytes, which hold every length that a value in
memory can have.

## Main definitions

* `Snapshot.IsStorable` — the lengths in a snapshot fit in eight bytes

## Main results

* `Snapshot.exact_codec` — reading and writing agree on storable snapshots
* `Snapshot.ofBinary_eq_ok_iff` — the same for a whole file
-/

namespace CodeGraph

open Codec

/-- The texts of an entity and the list of its types are not too long. -/
@[mk_iff]
structure Entity.IsStorable (e : Entity) : Prop where
  name : FitsText e.name
  longname : FitsText e.longname
  kind : FitsText e.kind.name
  types : FitsList FitsText e.types

/-- The name of the relation is not too long. -/
def Reference.IsStorable (r : Reference) : Prop :=
  FitsText r.kind.name

/-- The text of the token is not too long. -/
def Token.IsStorable (t : Token) : Prop :=
  FitsText t.text

/-- The tokens of a file and their list are not too long. -/
def FileTokens.IsStorable (f : FileTokens) : Prop :=
  FitsList Token.IsStorable f.tokens

/-- The texts and lists of a snapshot are not too long. -/
@[mk_iff]
structure Snapshot.IsStorable (s : Snapshot) : Prop where
  name : FitsText s.name
  languages : FitsList FitsText s.languages
  unresolved : FitsText s.unresolved
  entities : FitsList Entity.IsStorable s.entities
  references : FitsList Reference.IsStorable s.references
  lexemes : FitsList FileTokens.IsStorable s.lexemes

instance : DecidablePred Entity.IsStorable := fun e =>
  decidable_of_iff _ (Entity.isStorable_iff e).symm

instance : DecidablePred Reference.IsStorable := fun r =>
  inferInstanceAs (Decidable (FitsText r.kind.name))

instance : DecidablePred Token.IsStorable := fun t =>
  inferInstanceAs (Decidable (FitsText t.text))

instance : DecidablePred FileTokens.IsStorable := fun f =>
  inferInstanceAs (Decidable (FitsList Token.IsStorable f.tokens))

instance : DecidablePred Snapshot.IsStorable := fun s =>
  decidable_of_iff _ (Snapshot.isStorable_iff s).symm

/-! ### The codecs of the parts -/

theorem EntityId.exact_codec : EntityId.codec.Exact fun _ => True :=
  exact_word.map (fun _ => rfl) fun _ => rfl

/-- A kind is read with the words of its name. -/
theorem Kind.exact_codec : Kind.codec.Exact fun k => FitsText k.name :=
  exact_text.map (fun _ => Kind.ext rfl) fun _ => rfl

theorem Position.exact_codec : Position.codec.Exact fun _ => True :=
  ((exact_word.pair exact_word).map (fun _ => rfl) fun _ => rfl).congr (by simp)

theorem TokenCategory.exact_codec : (choice TokenCategory.all).Exact fun _ => True := by
  refine (exact_choice (by decide) (by decide)).congr fun c => ?_
  cases c <;> simp [TokenCategory.all]

theorem Entity.exact_codec : Entity.codec.Exact Entity.IsStorable := by
  have hparts := EntityId.exact_codec.pair <| exact_text.pair <| exact_text.pair <|
    Kind.exact_codec.pair exact_text.list
  refine (hparts.map (fun _ => rfl) fun _ => rfl).congr fun e => ?_
  rw [isStorable_iff, true_and]

theorem Reference.exact_codec : Reference.codec.Exact Reference.IsStorable := by
  have hparts := EntityId.exact_codec.pair <| EntityId.exact_codec.pair <|
    Kind.exact_codec.pair <| EntityId.exact_codec.pair Position.exact_codec
  refine (hparts.map (fun _ => rfl) fun _ => rfl).congr fun r => ?_
  simp [Reference.IsStorable]

theorem Token.exact_codec : Token.codec.Exact Token.IsStorable := by
  have hparts := TokenCategory.exact_codec.pair <| exact_text.pair <|
    Position.exact_codec.pair <| Position.exact_codec.pair EntityId.exact_codec.option
  refine (hparts.map (fun _ => rfl) fun _ => rfl).congr fun t => ?_
  simp [Token.IsStorable]

theorem FileTokens.exact_codec : FileTokens.codec.Exact FileTokens.IsStorable := by
  have hparts := EntityId.exact_codec.pair Token.exact_codec.list
  refine (hparts.map (fun _ => rfl) fun _ => rfl).congr fun f => ?_
  simp [FileTokens.IsStorable]

/-! ### The whole -/

namespace Snapshot

variable {s : Snapshot} {bs : Bytes}

theorem exact_codec : codec.Exact IsStorable := by
  have hparts := exact_text.pair <| exact_text.list.pair <| exact_text.pair <|
    Entity.exact_codec.list.pair <| Reference.exact_codec.list.pair FileTokens.exact_codec.list
  exact (hparts.map (fun _ => rfl) fun _ => rfl).congr fun s => (isStorable_iff s).symm

/-- A snapshot is read from the bytes that begin with its binary form, and from no others. -/
theorem ofBinary_eq_ok_iff : ofBinary bs = .ok s ↔ s.IsStorable ∧ s.toBinary <+: bs := by
  simp only [ofBinary, Except.map_eq_ok_iff, Prod.exists, exact_codec _ _ _]
  constructor
  · rintro ⟨s, rest, ⟨hs, rfl⟩, rfl⟩
    exact ⟨hs, List.prefix_append _ _⟩
  · rintro ⟨hs, rest, rfl⟩
    exact ⟨s, rest, ⟨hs, rfl⟩, rfl⟩

end Snapshot

end CodeGraph
