import CodeGraph.Proofs.Dependency.Aggregation
import CodeGraph.Proofs.Kind

/-!
# Dependencies agree with dependents

Members are found downwards, along what entities define; ancestors are found upwards, along the
inverse relation. If every entity is defined by one entity at most, and relations carry one verb at
most, both ways are the same, also where definitions are cyclic. Then an edge is listed among the
dependencies of one entity exactly if it is listed among the dependents of the other, and for each
category there is one such pair of entities at most.

## Main definitions

* `Database.IsConventional` — the conventions for relations
* `Database.IsDefinedIn` — an entity is defined by another

## Main results

* `Session.IsOver.mem_members_iff_nearest` — the members of an entity are those nearest to it
* `Session.dependencies_agree` — the dependencies agree with the dependents
-/

namespace CodeGraph

/-- Relations carry at most one verb and no name of an inverse definition, and no entity is defined
by two entities. -/
structure Database.IsConventional (db : Database) : Prop where
  oneVerb : ∀ r ∈ db.references, r.kind.AtMostOneVerb
  noInverse : ∀ r ∈ db.references, ¬ r.kind.hasWord "definein"
  oneDefinition : ∀ r ∈ db.references, ∀ r' ∈ db.references, r.kind.hasWord "define" →
    r'.kind.hasWord "define" → r.target = r'.target → r.source = r'.source

/-- A stored reference says that the entity `p` defines the entity `e`. -/
def Database.IsDefinedIn (db : Database) (e p : Entity) : Prop :=
  p ∈ db.entities ∧ ∃ r ∈ db.references, r.kind.hasWord "define" ∧ r.source = p.id ∧
    r.target = e.id

namespace Session

variable {s : Session} {db : Database} {config : Config} {category : String}
  {a b e p x : Entity} {edge : Edge}

/-- The dependencies of `a` list the edge under `b`. -/
def HasDependency (s : Session) (a b : Entity) (edge : Edge) : Prop :=
  ∃ m, s.dependencies a.id = .ok m ∧ m.Lists b edge

/-- The dependents of `b` list the edge under `a`. -/
def HasDependent (s : Session) (b a : Entity) (edge : Edge) : Prop :=
  ∃ m, s.dependents b.id = .ok m ∧ m.Lists a edge

/-! ### The default settings -/

theorem parse_dependencyExclude_default :
    KindFilter.parse ({} : GraphConfig).dependencyExclude = .ok (wordFilter "define") :=
  rfl

theorem excludes_default_iff (k : Kind) :
    ({} : GraphConfig).Excludes k ↔ k.hasWord "define" := by
  rw [GraphConfig.Excludes, parse_dependencyExclude_default]
  constructor
  · rintro ⟨f, hf, -, hselects⟩
    obtain rfl := Except.ok.inj hf
    rwa [selects_wordFilter] at hselects
  · intro hword
    exact ⟨wordFilter "define", rfl, by simp [wordFilter, KindFilter.isAll],
      by rwa [selects_wordFilter]⟩

/-! ### Definitions -/

/-- The definitions are the stored edges that carry `define`. -/
theorem IsOver.isDefinedIn_iff (h : s.IsOver db config) : db.IsDefinedIn e p ↔
    ∃ g, db.Stores g ∧ g.kind.hasWord "define" ∧ g.near = p ∧ g.far.id = e.id := by
  constructor
  · intro ⟨hp, r, hr, hdefine, hsource, htarget⟩
    obtain ⟨i, hi⟩ := List.mem_iff_getElem?.mp hr
    obtain ⟨g, hg, -, hview⟩ := h.exists_stores hi
    refine ⟨g, hg, hview.kind ▸ hdefine, ?_, hview.far.trans htarget⟩
    exact h.holds.eq_of_id_eq hg.near hp (hview.near.trans hsource)
  · rintro ⟨g, hg, hdefine, rfl, hfar⟩
    obtain ⟨r, hr, hview⟩ := hg.reference
    exact ⟨hg.near, r, List.mem_of_getElem? hr, hview.kind ▸ hdefine, hview.near.symm,
      hview.far.symm.trans hfar⟩

theorem IsOver.deterministic_isDefinedIn (h : s.IsOver db config) (hdb : db.IsConventional) :
    Deterministic db.IsDefinedIn := by
  rintro e p q ⟨hp, r, hr, hdefine, hsource, htarget⟩ ⟨hq, r', hr', hdefine', hsource', htarget'⟩
  have hsame := hdb.oneDefinition r hr r' hr' hdefine hdefine' (htarget.trans htarget'.symm)
  exact h.holds.eq_of_id_eq hp hq (hsource.symm.trans (hsame.trans hsource'))

/-- What an entity contains is what it defines, unless it is of the category. -/
theorem IsOver.contains_iff_isDefinedIn (h : s.IsOver db config) (hgraph : config.graph = {})
    (he : e ∈ db.entities) : s.Contains category e x ↔
      x.kind.category ≠ category ∧ x ∈ db.entities ∧ db.IsDefinedIn x e := by
  rw [h.contains_iff, h.traversal_eq hgraph, h.isDefinedIn_iff]
  refine and_congr_right fun _ => ?_
  simp only [Option.some.injEq, exists_eq_left', selects_wordFilter]
  constructor
  · rintro ⟨g, hg, hnear, rfl, hdefine⟩
    exact ⟨hg.far, g, hg, hdefine, h.holds.eq_of_id_eq hg.near he hnear, rfl⟩
  · rintro ⟨hx, g, hg, hdefine, rfl, hfar⟩
    exact ⟨g, hg, rfl, h.holds.eq_of_id_eq hg.far hx hfar, hdefine⟩

/-- The owner edge of an entity is the inverse of a definition. -/
theorem leadsToOwner_iff (h : s.IsOver db config) (hdb : db.IsConventional)
    (hedge : db.Stores edge) :
    s.LeadsToOwner KindFilter.all edge ↔ edge.kind.hasWord "define" := by
  have hrelation : s.traversal.ownerRelation.selects edge.kind.inverse ↔
      edge.kind.hasWord "define" :=
    h.ownerRelation_inverse_iff (hedge.kind_of_forall hdb.oneVerb)
      (hedge.kind_of_forall (P := fun k => ¬ k.hasWord "definein") hdb.noInverse)
  rw [← hrelation]
  exact ⟨LeadsToOwner.relation, fun hselects => ⟨hselects, rfl⟩⟩

/-- The parent of an entity is the entity that defines it. -/
theorem IsOver.isParent_iff (h : s.IsOver db config) (hdb : db.IsConventional) :
    s.IsParent e p ↔ db.IsDefinedIn e p := by
  have hdefined : ∀ q, s.IsParent e q → db.IsDefinedIn e q := by
    intro q hq
    obtain ⟨x, hx, rfl⟩ := Option.map_eq_some_iff.mp hq
    obtain ⟨g, hg, hfar, hleads, rfl⟩ := h.exists_of_ownerEdge? hx
    exact h.isDefinedIn_iff.mpr ⟨g, hg, (leadsToOwner_iff h hdb hg).mp hleads, rfl, hfar⟩
  refine ⟨hdefined p, fun hp => ?_⟩
  -- the owner edge is the first of several at most, but they all lead to one entity
  obtain ⟨g, hg, hdefine, -, hfar⟩ := h.isDefinedIn_iff.mp hp
  obtain ⟨x, hx⟩ := h.exists_ownerEdge?_iff.mpr
    ⟨g, hg, hfar, (leadsToOwner_iff h hdb hg).mpr hdefine⟩
  have hparent : s.IsParent e x.far := by rw [IsParent, parent?, hx, Option.map_some]
  rwa [h.deterministic_isDefinedIn hdb _ _ _ hp (hdefined _ hparent)]

theorem IsOver.nearest_isParent_iff (h : s.IsOver db config) (hdb : db.IsConventional) :
    Nearest s.IsParent category e a ↔ Nearest db.IsDefinedIn category e a := by
  have hup : s.IsParent = db.IsDefinedIn :=
    funext fun _ => funext fun _ => propext (h.isParent_iff hdb)
  rw [hup]

/-! ### Both ways -/

/-- The members of an entity are those to which it is the nearest of its category. Downwards the
walk stops before entities of the category, and upwards it stops at the first one. -/
theorem IsOver.mem_members_iff_nearest (h : s.IsOver db config) (hgraph : config.graph = {})
    (ha : a ∈ db.entities) (hx : x ∈ db.entities) :
    x ∈ s.members a ↔ Nearest db.IsDefinedIn a.kind.category x a := by
  rw [h.mem_members_iff ha]
  constructor
  · intro hpath
    -- one step of containment downwards is one step of the climb upwards
    clear hx
    induction hpath with
    | refl => exact ⟨[], .here rfl⟩
    | @tail y x hreach hstep ih =>
      have hy : y ∈ db.entities := h.stored_of_mem_members ha ((h.mem_members_iff ha).mpr hreach)
      obtain ⟨hcategory, -, hdefined⟩ := (h.contains_iff_isDefinedIn hgraph hy).mp hstep
      exact nearest_iff.mpr (Or.inr ⟨hcategory, y, hdefined, ih⟩)
  · intro ⟨path, hclimb⟩
    -- the climb is followed from its end, since the walk starts there
    induction path generalizing x with
    | nil =>
      cases hclimb
      exact .refl
    | cons y path ih =>
      cases hclimb with
      | step hcategory hdefined hclimb =>
        refine .tail (ih hdefined.1 hclimb) ?_
        exact (h.contains_iff_isDefinedIn hgraph hdefined.1).mpr ⟨hcategory, hx, hdefined⟩

theorem stored_base (hedge : db.Stores edge) (direction : Direction) :
    base direction edge ∈ db.entities := by
  cases direction with
  | forward => exact hedge.near
  | inverse => exact hedge.far

/-- An edge is kept under an entity of the same category if the two are the nearest to its ends. -/
theorem keeps_iff (h : s.IsOver db config) (hgraph : config.graph = {}) (hdb : db.IsConventional)
    {direction : Direction} (ha : a ∈ db.entities) (hcategory : b.kind.category = a.kind.category)
    (hedge : db.Stores edge) : s.Keeps db config direction a b edge ↔
      ¬ edge.kind.hasWord "define" ∧
        Nearest db.IsDefinedIn a.kind.category (base direction edge) a ∧
        Nearest db.IsDefinedIn a.kind.category (neighbour direction edge) b ∧
        b ≠ a ∧ ¬ db.isUnresolved (neighbour direction edge) ∧ ¬ db.isUnresolved b := by
  have hmembers := h.mem_members_iff_nearest hgraph ha (stored_base hedge direction)
  have hlift := h.lift_eq_iff (stored_neighbour hedge direction) hcategory
  have hexcludes := excludes_default_iff edge.kind
  rw [h.nearest_isParent_iff hdb] at hlift
  rw [← hgraph] at hexcludes
  rw [← hmembers, ← hlift, ← hexcludes]
  constructor
  · intro hkeeps
    exact ⟨hkeeps.counted, hkeeps.member, hkeeps.key, hkeeps.key_ne, hkeeps.resolved,
      hkeeps.key_resolved⟩
  · intro ⟨hcounted, hmember, hkey, hne, hresolved, hb⟩
    exact ⟨hedge, hmember, hcounted, hkey, hne, hresolved, hb⟩

/-- The dependencies of `a` agree with the dependents of `b`: an edge is listed in both or in
neither, and it is listed if `a` and `b` are the nearest to its ends. For one category no other pair
has the edge. -/
theorem dependencies_agree (h : start db config = .ok s) (hgraph : config.graph = {})
    (hdb : db.IsConventional) (ha : a ∈ db.entities) (hb : b ∈ db.entities) (hne : a ≠ b)
    (hcategory : a.kind.category = b.kind.category) (hedge : db.Stores edge)
    (hnear : ¬ db.isUnresolved edge.near) (hfar : ¬ db.isUnresolved edge.far)
    (hra : ¬ db.isUnresolved a) (hrb : ¬ db.isUnresolved b) :
    (s.HasDependency a b edge ↔ s.HasDependent b a edge) ∧
    (s.HasDependency a b edge ↔ ¬ edge.kind.hasWord "define" ∧
      Nearest db.IsDefinedIn a.kind.category edge.near a ∧
      Nearest db.IsDefinedIn a.kind.category edge.far b) ∧
    (s.HasDependency a b edge → ∀ a' ∈ db.entities, ∀ b' ∈ db.entities,
      a'.kind.category = a.kind.category → b'.kind.category = a.kind.category →
      s.HasDependency a' b' edge ∨ s.HasDependent b' a' edge → a' = a ∧ b' = b) := by
  have hover := start_eq_ok_iff.mp h
  have hdet := hover.deterministic_isDefinedIn hdb
  have hforward : s.HasDependency a b edge ↔ ¬ edge.kind.hasWord "define" ∧
      Nearest db.IsDefinedIn a.kind.category edge.near a ∧
      Nearest db.IsDefinedIn a.kind.category edge.far b := by
    rw [HasDependency, dependencies, exists_lists_aggregate_iff hover ha,
      keeps_iff hover hgraph hdb ha hcategory.symm hedge]
    simp [base, neighbour, hne.symm, hfar, hrb]
  have hinverse : s.HasDependent b a edge ↔ ¬ edge.kind.hasWord "define" ∧
      Nearest db.IsDefinedIn a.kind.category edge.near a ∧
      Nearest db.IsDefinedIn a.kind.category edge.far b := by
    rw [HasDependent, dependents, exists_lists_aggregate_iff hover hb,
      keeps_iff hover hgraph hdb hb hcategory hedge, hcategory]
    simp [base, neighbour, hne, hnear, hra, and_comm]
  refine ⟨hforward.trans hinverse.symm, hforward, fun hlisted a' ha' b' hb' hca hcb hother => ?_⟩
  obtain ⟨-, hnearest, hnearest'⟩ := hforward.mp hlisted
  -- both ends have one nearest ancestor of the category, whichever map lists the edge
  have hpair : Nearest db.IsDefinedIn a.kind.category edge.near a' ∧
      Nearest db.IsDefinedIn a.kind.category edge.far b' := by
    rcases hother with hother | hother
    · rw [HasDependency, dependencies, exists_lists_aggregate_iff hover ha',
        keeps_iff hover hgraph hdb ha' (hcb.trans hca.symm) hedge, hca] at hother
      exact ⟨hother.2.1, hother.2.2.1⟩
    · rw [HasDependent, dependents, exists_lists_aggregate_iff hover hb',
        keeps_iff hover hgraph hdb hb' (hca.trans hcb.symm) hedge, hcb] at hother
      exact ⟨hother.2.2.1, hother.2.1⟩
  exact ⟨hpair.1.unique hdet hnearest, hpair.2.unique hdet hnearest'⟩

theorem isConventional_sample : sample.IsConventional := by
  constructor
  case oneVerb =>
    unfold Kind.AtMostOneVerb
    decide +kernel
  case noInverse => decide +kernel
  case oneDefinition => decide +kernel

open Sample in
theorem dependencies_agree_sample : ∃ s, start sample {} = .ok s ∧ sample.Stores call ∧
    s.HasDependency classA classB call ∧ s.HasDependent classB classA call := by
  obtain ⟨s, hs⟩ := exists_start_sample
  have ha : classA ∈ sample.entities := by simp [sample]
  have hb : classB ∈ sample.entities := by simp [sample]
  have hcall : sample.Stores call := by
    refine ⟨⟨_, rfl, ⟨rfl, rfl, rfl, rfl, rfl, rfl⟩⟩, ?_, ?_, ?_⟩ <;> simp [sample, call]
  have hrun : Nearest sample.IsDefinedIn classA.kind.category run classA := by
    have hdefined : sample.IsDefinedIn run classA :=
      ⟨ha, reference classA run "Define" 2, by simp [sample], by decide, rfl, rfl⟩
    exact ⟨_, .step (by decide) hdefined (.here rfl)⟩
  have hgo : Nearest sample.IsDefinedIn classA.kind.category go classB := by
    have hdefined : sample.IsDefinedIn go classB :=
      ⟨hb, reference classB go "Define" 7, by simp [sample], by decide, rfl, rfl⟩
    exact ⟨_, .step (by decide) hdefined (.here rfl)⟩
  have hagree := dependencies_agree hs rfl isConventional_sample ha hb (by decide) rfl hcall
    (by decide) (by decide) (by decide) (by decide)
  have hlisted := hagree.2.1.mpr ⟨by decide, hrun, hgo⟩
  exact ⟨s, hs, hcall, hlisted, hagree.1.mp hlisted⟩

end Session

end CodeGraph
