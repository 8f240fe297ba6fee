import CodeGraph.Proofs.Kind
import CodeGraph.Proofs.Session.Edges
import CodeGraph.Proofs.Session.Filters

/-!
# Relations by their direction

The filter of a verb selects the forward edges of the relations that carry the verb, and the verb
with its ending selects the inverse edges of the same relations, as long as relations have one verb
at most. Of several verbs only the first takes the ending, so that the others would select inverse
edges, too.

## Main definitions

* `Database.IsDirected` — stored relations are forward ones with at most one verb

## Main results

* `Session.refs_told_apart` — a verb and its inverse select by direction
* `Session.deref_call_leaves_callee` — with two verbs a call is listed as one of its target
-/

namespace CodeGraph

/-- Every stored relation is a forward one with at most one verb. -/
structure Database.IsDirected (db : Database) : Prop where
  forward : ∀ r ∈ db.references, r.kind.IsForward
  oneVerb : ∀ r ∈ db.references, r.kind.AtMostOneVerb

/-- The relations of stored edges are told from their inverses. -/
theorem Database.IsDirected.isToldApart {db : Database} {f : Edge} (h : db.IsDirected)
    (hf : db.Stores f) : f.kind.IsToldApart :=
  (Kind.isToldApart_iff (hf.kind_of_forall h.forward)).mpr (hf.kind_of_forall h.oneVerb)

namespace Session

variable {s : Session} {db : Database} {config : Config} {e : Entity} {x f : Edge} {v w : String}

theorem isPlain_of_mem_relationVerbs (hv : v ∈ relationVerbs) :
    Text.IsPlain v.toList ∧ Text.IsPlain (v ++ inverseEnding v).toList := by
  revert v
  decide

theorem mem_selectedEdges_word_iff : x ∈ s.selectedEdges e.id (wordFilter w) KindFilter.all ↔
    x ∈ s.index.leaving e.id ∧ x.kind.hasWord w := by
  simp [selectedEdges, selects_wordFilter, selects_all]

namespace IsOver

/-- A verb selects the forward edges whose relation carries it. -/
theorem mem_leaving_verb_iff (h : s.IsOver db config) (hdb : db.IsDirected) (he : e ∈ db.entities)
    (hv : v ∈ relationVerbs) : x ∈ s.index.leaving e.id ∧ x.kind.hasWord v ↔
      db.Stores x ∧ x.near = e ∧ x.kind.hasWord v := by
  rw [h.mem_leaving_iff]
  constructor
  · rintro ⟨⟨hnear, f, hf, rfl | rfl⟩, hword⟩
    · exact ⟨hf, h.holds.eq_of_id_eq hf.near he hnear, hword⟩
    · exact absurd hword (hdb.isToldApart hf v hv).1
  · rintro ⟨hx, rfl, hword⟩
    exact ⟨⟨rfl, x, hx, Or.inl rfl⟩, hword⟩

/-- A verb with its ending selects the inverses of the edges whose relation carries the verb. -/
theorem mem_leaving_ending_iff (h : s.IsOver db config) (hdb : db.IsDirected)
    (he : e ∈ db.entities) (hv : v ∈ relationVerbs) :
    x ∈ s.index.leaving e.id ∧ x.kind.hasWord (v ++ inverseEnding v) ↔
      ∃ f, db.Stores f ∧ f.far = e ∧ f.kind.hasWord v ∧ x = f.reversed := by
  rw [h.mem_leaving_iff]
  constructor
  · rintro ⟨⟨hnear, f, hf, rfl | rfl⟩, hword⟩
    · exact absurd hword (hf.kind_of_forall hdb.forward v hv)
    · exact ⟨f, hf, h.holds.eq_of_id_eq hf.far he hnear,
        (hdb.isToldApart hf v hv).2.mp hword, rfl⟩
  · rintro ⟨f, hf, rfl, hword, rfl⟩
    exact ⟨⟨rfl, f, hf, Or.inr rfl⟩, (hdb.isToldApart hf v hv).2.mpr hword⟩

end IsOver

/-- A forward relation is told from its inverse if and only if it has at most one verb. If all
relations are such, then a verb selects forward edges only, and the verb with its ending selects the
inverses of the edges that arrive by relations with the verb, each list by location. -/
theorem refs_told_apart (h : start db config = .ok s) (hdb : db.IsDirected) (he : e ∈ db.entities)
    (hv : v ∈ relationVerbs) :
    (∀ k : Kind, k.IsForward → (k.IsToldApart ↔ k.AtMostOneVerb)) ∧
    (∃ xs, s.refs e.id (some v) none false = .ok xs ∧ xs.Pairwise Edge.Before ∧
      ∀ x, x ∈ xs ↔ db.Stores x ∧ x.near = e ∧ x.kind.hasWord v) ∧
    ∃ xs, s.refs e.id (some (v ++ inverseEnding v)) none false = .ok xs ∧
      xs.Pairwise Edge.Before ∧
      ∀ x, x ∈ xs ↔ ∃ f, db.Stores f ∧ f.far = e ∧ f.kind.hasWord v ∧ x = f.reversed := by
  have hover := start_eq_ok_iff.mp h
  obtain ⟨hplain, hplain'⟩ := isPlain_of_mem_relationVerbs hv
  have hrefs : s.refs e.id (some v) none false = .ok _ :=
    hover.refs_eq_ok he (parse_of_isPlain hplain) rfl
  have hrefs' : s.refs e.id (some (v ++ inverseEnding v)) none false = .ok _ :=
    hover.refs_eq_ok he (parse_of_isPlain hplain') rfl
  have hordered := hover.pairwise_leaving e.id
  refine ⟨fun k hk => Kind.isToldApart_iff hk, ⟨_, hrefs, hordered.filter _, fun x => ?_⟩,
    ⟨_, hrefs', hordered.filter _, fun x => ?_⟩⟩
  · rw [← hover.mem_leaving_verb_iff hdb he hv]
    exact mem_selectedEdges_word_iff
  · rw [← hover.mem_leaving_ending_iff hdb he hv]
    exact mem_selectedEdges_word_iff

/-! ### One verb and two -/

theorem isDirected_sample : sample.IsDirected := by
  constructor
  case forward =>
    unfold Kind.IsForward
    decide +kernel
  case oneVerb =>
    unfold Kind.AtMostOneVerb
    decide +kernel

open Sample in
theorem refs_told_apart_sample : ∃ s, start sample {} = .ok s ∧ sample.IsDirected ∧
    go ∈ sample.entities ∧ "call" ∈ relationVerbs ∧
    ∃ xs, s.refs go.id (some "callby") none false = .ok xs ∧ call.reversed ∈ xs := by
  obtain ⟨s, hs⟩ := exists_start_sample
  have hgo : go ∈ sample.entities := by simp [sample]
  have hverb : "call" ∈ relationVerbs := by decide
  obtain ⟨-, -, xs, hxs, -, hmem⟩ := refs_told_apart hs isDirected_sample hgo hverb
  exact ⟨s, hs, isDirected_sample, hgo, hverb, xs, hxs,
    (hmem _).mpr ⟨call, stores_call_sample, rfl, by decide +kernel, rfl⟩⟩

open Sample in
/-- A method that calls another through a pointer. The relation is a forward one with two verbs. -/
def pointerSample : Database :=
  { sample with references := [reference run go "C Deref Call" 4] }

open Sample in
/-- Only the first of two verbs takes the ending, so that the called method is listed with a call of
its own and with no caller. -/
theorem deref_call_leaves_callee : (Kind.ofName "C Deref Call").IsForward ∧
    (Kind.ofName "C Deref Call").hasWord "call" ∧
    (Kind.ofName "C Deref Call").inverse.hasWord "call" ∧
    ¬ (Kind.ofName "C Deref Call").inverse.hasWord "callby" ∧
    ∃ s xs, start pointerSample {} = .ok s ∧ s.refs go.id (some "call") none false = .ok xs ∧
      ∃ x ∈ xs, x.isInverse ∧ x.near = go ∧ x.far = run := by
  obtain ⟨s, hs⟩ : ∃ s, start pointerSample {} = .ok s :=
    exists_start_iff.mpr ⟨rfl, ⟨_, rfl⟩, by decide, by unfold Reference.IsKnown; decide⟩
  have hover := start_eq_ok_iff.mp hs
  have hgo : go ∈ pointerSample.entities := by simp [pointerSample, sample]
  have hrun : run ∈ pointerSample.entities := by simp [pointerSample, sample]
  have hinverse : (Kind.ofName "C Deref Call").inverse.hasWord "call" := by decide +kernel
  obtain ⟨f, hf, -, hview⟩ := hover.exists_stores (i := 0) rfl
  have hplain : Text.IsPlain "call".toList := Text.isPlain_iff.mpr (by decide)
  have hfar : f.far = go := hover.holds.eq_of_id_eq hf.far hgo hview.far
  have hnear : f.near = run := hover.holds.eq_of_id_eq hf.near hrun hview.near
  refine ⟨?_, by decide +kernel, hinverse, by decide +kernel, s, _, hs,
    hover.refs_eq_ok hgo (parse_of_isPlain hplain) rfl, f.reversed, ?_, rfl, hfar, hnear⟩
  · unfold Kind.IsForward
    decide +kernel
  · have hleaving : f.reversed ∈ s.index.leaving go.id :=
      hover.mem_leaving_iff.mpr ⟨hview.far, f, hf, Or.inr rfl⟩
    have hkind : f.reversed.kind = (Kind.ofName "C Deref Call").inverse :=
      congrArg Kind.inverse hview.kind
    exact mem_selectedEdges_word_iff.mpr ⟨hleaving, hkind ▸ hinverse⟩

end Session

end CodeGraph
