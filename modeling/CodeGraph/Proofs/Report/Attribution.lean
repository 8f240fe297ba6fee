import CodeGraph.Proofs.Dependency.Agreement
import CodeGraph.Proofs.Report.Rows
import CodeGraph.Proofs.Session.Unique

/-!
# The class of a method

A report of methods follows the definitions of a class forwards, reports of calls follow those of a
method backwards. Both meet the same stored references: the inverse of a definition, and of no other
relation, carries the word by which owners are found. A method that several classes define stands in
the block of each, and the first of its definitions, in the order of the method, decides to which
class its calls are counted.

## Main definitions

* `Database.HasPlainDefinitions` — the inverses of definitions can be told
* `Database.Defines`, `Database.DefinesFirst` — an edge by which a class defines a method
* `Session.ListsMethod` — a method stands among those of an entity
* `Session.IsCountedTo` — all reports name one class for a method

## Main results

* `Session.IsOver.listsMethod_iff` — a class lists what it defines
* `Session.IsOver.exists_definesFirst` — the first definition by a class decides
* `Session.attribution_agrees` — the class columns and the blocks of methods tell the same
-/

namespace CodeGraph

namespace Database

/-- Stored relations have one verb at most and do not name the inverse of a definition. -/
structure HasPlainDefinitions (db : Database) : Prop where
  oneVerb : ∀ r ∈ db.references, r.kind.AtMostOneVerb
  no_definein : ∀ r ∈ db.references, ¬ r.kind.hasWord "definein"

/-- The stored edge by which the class `c` defines `m`. -/
structure Defines (db : Database) (c m : Entity) (g : Edge) : Prop where
  stored : db.Stores g
  near : g.near = c
  far : g.far = m
  define : g.kind.hasWord "define"
  isClass : c.kind.hasWord "class"

/-- Seen from `m`, the edge comes before all others by which a class defines `m`. -/
structure DefinesFirst (db : Database) (d m : Entity) (g : Edge) : Prop extends
    db.Defines d m g where
  first : ∀ c g', db.Defines c m g' → g' = g ∨ g.reversed.Before g'.reversed

end Database

namespace Session

variable {s : Session} {db : Database} {config : Config} {c m : Entity} {x g : Edge}

/-! ### The methods of a class -/

/-- The entity `m` stands among the methods that `c` defines, each listed once. -/
def ListsMethod (s : Session) (c m : Entity) : Prop :=
  ∃ xs, s.refs c.id (some "define") (some "method") true = .ok xs ∧ ∃ x ∈ xs, x.far = m

/-- The row of a definition, made from its forward view. -/
def methodRow (x : Edge) : List String :=
  [x.near.longname, x.far.name, x.far.typeAnnotation, x.file.name, numeral x.position.line]

namespace IsOver

/-- The block of an entity has a row for each method that it defines, made from one of the edges by
which it does so. -/
theorem exists_methodRows (h : s.IsOver db config) (hc : c ∈ db.entities) : ∃ xs,
    s.refs c.id (some "define") (some "method") true = .ok xs ∧
      s.entityRows .methods c = .ok (xs.map methodRow) ∧
      (∀ x ∈ xs, x ∈ s.selectedEdges c.id (wordFilter "define") (wordFilter "method")) ∧
      ∀ g ∈ s.selectedEdges c.id (wordFilter "define") (wordFilter "method"),
        ∃ x ∈ xs, x.far.id = g.far.id := by
  have hrefs : s.refs c.id (some "define") (some "method") true = .ok _ :=
    h.refs_eq_ok hc (parse_of_mem_reportWords (by decide)) (parse_of_mem_reportWords (by decide))
  have hcollapses := collapses_mergeSort
    (s.selectedEdges c.id (wordFilter "define") (wordFilter "method"))
  refine ⟨_, hrefs, ?_, ?_, ?_⟩
  · rw [entityRows, methodRows, hrefs]
    refine congrArg Except.ok (List.map_congr_left fun x hx => ?_)
    have hselected := List.mem_of_find?_eq_some ((hcollapses.mem_iff x).mp hx)
    rw [methodRow, (h.stored_of_mem_leaving hc (List.mem_filter.mp hselected).1).1]
  · exact fun x hx => List.mem_of_find?_eq_some ((hcollapses.mem_iff x).mp hx)
  · intro g hg
    obtain ⟨x, ⟨hx, hpairing⟩, -⟩ := hcollapses.existsUnique g hg
    exact ⟨x, hx, congrArg Prod.snd hpairing⟩

/-- Among the selected edges of an entity are only forward ones, as no inverse is a definition. -/
theorem mem_selectedEdges_define_iff (h : s.IsOver db config) (hdb : db.HasPlainDefinitions)
    (hc : c ∈ db.entities) :
    x ∈ s.selectedEdges c.id (wordFilter "define") (wordFilter "method") ↔
      db.Stores x ∧ x.near = c ∧ x.kind.hasWord "define" ∧ x.far.kind.hasWord "method" := by
  rw [selectedEdges, List.mem_filter, selects_wordFilter, selects_wordFilter, Bool.and_eq_true,
    h.mem_leaving_iff]
  constructor
  · rintro ⟨⟨hnear, g, hg, rfl | rfl⟩, hdefine, hmethod⟩
    · exact ⟨hg, h.holds.eq_of_id_eq hg.near hc hnear, hdefine, hmethod⟩
    · -- the inverse of a relation with one verb carries no verb at all
      have hone : g.kind.AtMostOneVerb := hg.kind_of_forall hdb.oneVerb
      exact absurd hdefine (hone.not_hasWord_inverse (by decide))
  · rintro ⟨hx, rfl, hdefine, hmethod⟩
    exact ⟨⟨rfl, x, hx, Or.inl rfl⟩, hdefine, hmethod⟩

theorem exists_defines_iff (h : s.IsOver db config) (hm : m ∈ db.entities)
    (hclass : c.kind.hasWord "class") : (∃ g, db.Defines c m g) ↔ db.IsDefinedIn m c := by
  rw [h.isDefinedIn_iff]
  constructor
  · rintro ⟨g, hg⟩
    exact ⟨g, hg.stored, hg.define, hg.near, congrArg Entity.id hg.far⟩
  · rintro ⟨g, hg, hdefine, hnear, hfar⟩
    exact ⟨g, hg, hnear, h.holds.eq_of_id_eq hg.far hm hfar, hdefine, hclass⟩

/-- The methods that a class lists are those that it defines. -/
theorem listsMethod_iff (h : s.IsOver db config) (hdb : db.HasPlainDefinitions)
    (hc : c ∈ db.entities) (hclass : c.kind.hasWord "class") (hmethod : m.kind.hasWord "method") :
    s.ListsMethod c m ↔ ∃ g, db.Defines c m g := by
  obtain ⟨xs, hrefs, -, hselected, hfound⟩ := h.exists_methodRows hc
  have hlists : s.ListsMethod c m ↔ ∃ x ∈ xs, x.far = m := by
    rw [ListsMethod, hrefs]
    simp only [Except.ok.injEq, exists_eq_left']
  rw [hlists]
  constructor
  · rintro ⟨x, hx, rfl⟩
    obtain ⟨hstored, hnear, hdefine, -⟩ :=
      (h.mem_selectedEdges_define_iff hdb hc).mp (hselected x hx)
    exact ⟨x, hstored, hnear, rfl, hdefine, hclass⟩
  · rintro ⟨g, hg⟩
    obtain rfl := hg.far
    -- another edge may stand for `g`, but it leads to the same method
    obtain ⟨x, hx, hid⟩ := hfound g ((h.mem_selectedEdges_define_iff hdb hc).mpr
      ⟨hg.stored, hg.near, hg.define, hmethod⟩)
    have hstored := ((h.mem_selectedEdges_define_iff hdb hc).mp (hselected x hx)).1
    exact ⟨x, hx, h.holds.eq_of_id_eq hstored.far hg.stored.far hid⟩

/-- In the block of a class stand the methods that it lists. -/
theorem exists_row_of_listsMethod (h : s.IsOver db config) (hdb : db.HasPlainDefinitions)
    (hc : c ∈ db.entities) (hclass : c.kind.hasWord "class") (hlists : s.ListsMethod c m) :
    ∃ rows, s.entityRows .methods c = .ok rows ∧ ∃ g, db.Defines c m g ∧ methodRow g ∈ rows := by
  obtain ⟨xs, hrefs, hrows, hselected, -⟩ := h.exists_methodRows hc
  obtain ⟨xs', hrefs', x, hx, rfl⟩ := hlists
  obtain rfl := Except.ok.inj (hrefs.symm.trans hrefs')
  obtain ⟨hstored, hnear, hdefine, -⟩ :=
    (h.mem_selectedEdges_define_iff hdb hc).mp (hselected x hx)
  exact ⟨_, hrows, x, ⟨hstored, hnear, rfl, hdefine, hclass⟩, List.mem_map_of_mem hx⟩

end IsOver

/-! ### The owner of a method -/

/-- In reports the class of `m` has the long name of `d`: in the blocks of methods, and in both
class columns of the calls and of the calls to methods. -/
structure IsCountedTo (s : Session) (db : Database) (m d : Entity) : Prop where
  methods : ∀ c ∈ db.entities, c.kind.hasWord "class" → ∃ xs,
    s.refs c.id (some "define") (some "method") true = .ok xs ∧
    s.entityRows .methods c = .ok (xs.map methodRow) ∧
    ∀ x ∈ xs, x.far = m → (methodRow x)[0]? = some d.longname
  calls : ∀ kind relation, (kind, relation) ∈ [(ReportKind.calls, "call"), (.calledBy, "callby")] →
    ∀ e ∈ db.entities, ∃ xs, s.refs e.id (some relation) (some "method") false = .ok xs ∧
      s.entityRows kind e = .ok (xs.map s.callRow) ∧
      ∀ x ∈ xs, (x.near = m → (s.callRow x)[0]? = some d.longname) ∧
        (x.far = m → (s.callRow x)[2]? = some d.longname)

namespace IsOver

section Owner

variable (h : s.IsOver db config)
  (hkinds : config.graph.ownerKinds = ({} : GraphConfig).ownerKinds)
  (hdb : db.HasPlainDefinitions)
include h hkinds hdb

/-- With the default settings the owners are the classes that define. -/
theorem leadsToOwner_iff_defines (hg : db.Stores g) :
    s.LeadsToOwner s.traversal.ownerKinds g ↔ db.Defines g.near g.far g := by
  obtain ⟨-, howner, -⟩ := Traversal.ofConfig_eq_ok_iff.mp h.traversal
  have hkind : s.traversal.ownerKinds.selects g.near.kind ↔ g.near.kind.hasWord "class" := by
    rw [hkinds] at howner
    rw [show s.traversal.ownerKinds = wordFilter "class" from (Except.ok.inj howner).symm,
      selects_wordFilter]
  have hrelation : s.traversal.ownerRelation.selects g.kind.inverse ↔ g.kind.hasWord "define" :=
    h.ownerRelation_inverse_iff (hg.kind_of_forall hdb.oneVerb)
      (hg.kind_of_forall (P := fun k => ¬ k.hasWord "definein") hdb.no_definein)
  constructor
  · intro hleads
    exact ⟨hg, rfl, rfl, hrelation.mp hleads.relation, hkind.mp hleads.owner⟩
  · intro hdefines
    exact ⟨hrelation.mpr hdefines.define, hkind.mpr hdefines.isClass⟩

/-- An entity has an owner edge if some class defines it. -/
theorem exists_ownerEdge?_iff_defines (hm : m ∈ db.entities) :
    (∃ x, s.ownerEdge? m.id s.traversal.ownerKinds = some x) ↔ ∃ c g, db.Defines c m g := by
  rw [h.exists_ownerEdge?_iff]
  constructor
  · intro ⟨g, hg, hfar, hleads⟩
    have hdefines := (h.leadsToOwner_iff_defines hkinds hdb hg).mp hleads
    exact ⟨g.near, g, h.holds.eq_of_id_eq hg.far hm hfar ▸ hdefines⟩
  · rintro ⟨c, g, hg⟩
    obtain rfl := hg.near
    obtain rfl := hg.far
    exact ⟨g, hg.stored, rfl, (h.leadsToOwner_iff_defines hkinds hdb hg.stored).mpr hg⟩

/-- The owner edge is the inverse of the first definition by a class. -/
theorem exists_definesFirst (hm : m ∈ db.entities)
    (hx : s.ownerEdge? m.id s.traversal.ownerKinds = some x) :
    ∃ g, db.DefinesFirst x.far m g := by
  obtain ⟨g, hg, hfar, hleads, rfl⟩ := h.exists_of_ownerEdge? hx
  have hdefines := (h.leadsToOwner_iff_defines hkinds hdb hg).mp hleads
  rw [h.holds.eq_of_id_eq hg.far hm hfar] at hdefines
  refine ⟨g, hdefines, fun c g' hg' => ?_⟩
  obtain rfl := hg'.near
  obtain rfl := hg'.far
  -- the other definition is listed, too, by an edge that leads to an owner
  have hleads' := (h.leadsToOwner_iff_defines hkinds hdb hg'.stored).mpr hg'
  obtain ⟨hmem, hinverse⟩ := h.mem_leaving_inverse_iff.mpr ⟨g', hg'.stored, rfl, rfl⟩
  have hordered := h.pairwise_leaving g'.far.id
  -- no such edge stands before the one that is found
  obtain ⟨-, before, after, hsplit, hbefore⟩ := List.find?_eq_some_iff_append.mp hx
  rw [hsplit] at hmem hordered
  rcases List.mem_append.mp hmem with hmem | hmem
  · have hrelation : s.traversal.ownerRelation.selects g'.reversed.kind := hleads'.relation
    have howner : s.traversal.ownerKinds.selects g'.reversed.far.kind := hleads'.owner
    exact absurd (hbefore _ hmem) (by simp [hinverse, hrelation, howner])
  · rcases List.mem_cons.mp hmem with heq | hmem
    · exact Or.inl (hg'.stored.eq_of_reversed_eq hg heq)
    · have hafter := (List.pairwise_append.mp hordered).2.1
      exact Or.inr ((List.pairwise_cons.mp hafter).1 _ hmem)

end Owner

/-- With a single defining class all reports name it for the method. -/
theorem isCountedTo_of_unique (h : s.IsOver db config) (hdb : db.HasPlainDefinitions)
    (hx : s.ownerEdge? m.id s.traversal.ownerKinds = some x)
    (hunique : ∀ c ∈ db.entities, c.kind.hasWord "class" → s.ListsMethod c m → c = x.far) :
    s.IsCountedTo db m x.far := by
  have hname : s.ownerName m = x.far.longname := by
    rw [ownerName, hx]
    rfl
  constructor
  case methods =>
    intro c hc hclass
    obtain ⟨xs, hrefs, hrows, hselected, -⟩ := h.exists_methodRows hc
    -- a class in whose block `m` stands lists it, and so it is the only one
    refine ⟨xs, hrefs, hrows, fun y hy hfar => ?_⟩
    obtain ⟨-, hnear, -⟩ := (h.mem_selectedEdges_define_iff hdb hc).mp (hselected y hy)
    rw [methodRow, hnear, hunique c hc hclass ⟨xs, hrefs, y, hy, hfar⟩]
    rfl
  case calls =>
    intro kind relation hkind e he
    have hrelation : relation ∈ reportWords := by
      simp only [List.mem_cons, List.not_mem_nil, or_false, Prod.mk.injEq] at hkind
      rcases hkind with ⟨-, rfl⟩ | ⟨-, rfl⟩ <;> decide
    have hrows : s.entityRows kind e = s.callRows relation e := by
      simp only [List.mem_cons, List.not_mem_nil, or_false, Prod.mk.injEq] at hkind
      rcases hkind with ⟨rfl, rfl⟩ | ⟨rfl, rfl⟩ <;> rfl
    have hmethods : "method" ∈ reportWords := by decide
    refine ⟨_, h.refs_eq_ok he (parse_of_mem_reportWords hrelation)
      (parse_of_mem_reportWords hmethods), hrows.trans (h.callRows_eq_ok he hrelation), ?_⟩
    intro y hy
    constructor
    · rintro rfl
      rw [callRow, hname]
      rfl
    · rintro rfl
      rw [callRow, hname]
      rfl

end IsOver

/-- The class that owns a method lists it. If classes list a method, the one that defines it first
owns it, and without such a class it has no owner. So all reports agree on a method that a single
class defines. -/
theorem attribution_agrees (h : start db config = .ok s)
    (hkinds : config.graph.ownerKinds = ({} : GraphConfig).ownerKinds)
    (hdb : db.HasPlainDefinitions) (hm : m ∈ db.entities) (hmethod : m.kind.hasWord "method") :
    ∃ owner, s.ownerClass m.id = .ok owner ∧
      (∀ c, owner = some c → s.ListsMethod c m ∧ ∃ rows, s.entityRows .methods c = .ok rows ∧
        ∃ g, db.Defines c m g ∧ methodRow g ∈ rows) ∧
      (∀ c ∈ db.entities, c.kind.hasWord "class" → s.ListsMethod c m →
        ∃ d g, owner = some d ∧ db.DefinesFirst d m g) ∧
      (owner = none ↔ ∀ c ∈ db.entities, c.kind.hasWord "class" → ¬ s.ListsMethod c m) ∧
      ∀ d ∈ db.entities, d.kind.hasWord "class" → s.ListsMethod d m →
        (∀ c ∈ db.entities, c.kind.hasWord "class" → s.ListsMethod c m → c = d) →
          owner = some d ∧ s.IsCountedTo db m d := by
  have hover := start_eq_ok_iff.mp h
  have howner : s.ownerClass m.id =
      .ok ((s.ownerEdge? m.id s.traversal.ownerKinds).map (·.far)) := by
    rw [ownerClass, hover.queried hm]
    rfl
  have hexists := hover.exists_ownerEdge?_iff_defines hkinds hdb hm
  -- to be listed by a class is to be defined by it
  have hlists {c : Entity} (hc : c ∈ db.entities) (hclass : c.kind.hasWord "class") :
      s.ListsMethod c m ↔ ∃ g, db.Defines c m g :=
    hover.listsMethod_iff hdb hc hclass hmethod
  refine ⟨_, howner, ?_⟩
  cases hx : s.ownerEdge? m.id s.traversal.ownerKinds with
  | none =>
    -- a class that listed the method would define it, and then there would be an owner
    have hno : ∀ c ∈ db.entities, c.kind.hasWord "class" → ¬ s.ListsMethod c m := by
      intro c hc hclass hlisted
      obtain ⟨g, hg⟩ := (hlists hc hclass).mp hlisted
      obtain ⟨x, hx'⟩ := hexists.mpr ⟨c, g, hg⟩
      cases hx.symm.trans hx'
    refine ⟨by simp, fun c hc hclass hlisted => ?_, iff_of_true rfl hno, ?_⟩
    · exact absurd hlisted (hno c hc hclass)
    · exact fun d hd hclass hlisted => absurd hlisted (hno d hd hclass)
  | some x =>
    obtain ⟨g, hfirst⟩ := hover.exists_definesFirst hkinds hdb hm hx
    have hstored : x.far ∈ db.entities := hfirst.near ▸ hfirst.stored.near
    have hlisted : s.ListsMethod x.far m :=
      (hlists hstored hfirst.isClass).mpr ⟨g, hfirst.toDefines⟩
    refine ⟨?_, fun _ _ _ _ => ⟨x.far, g, rfl, hfirst⟩, ?_, ?_⟩
    · rintro c ⟨rfl⟩
      exact ⟨hlisted, hover.exists_row_of_listsMethod hdb hstored hfirst.isClass hlisted⟩
    · refine iff_of_false (by simp) fun hno => ?_
      exact hno x.far hstored hfirst.isClass hlisted
    · intro d _ _ _ hunique
      obtain rfl := hunique x.far hstored hfirst.isClass hlisted
      exact ⟨rfl, hover.isCountedTo_of_unique hdb hx hunique⟩

/-! ### Two classes with one method -/

open Sample in
/-- Both classes of the file define a method, and before them the file does. The second class comes
first. -/
def sharedSample : Database :=
  { sample with references := [reference file go "Define" 1, reference classA run "Define" 2,
      reference classA go "Define" 6, reference classB go "Java Define" 5,
      reference run go "Call" 3] }

theorem exists_start_sharedSample : ∃ s, start sharedSample {} = .ok s :=
  exists_start_iff.mpr ⟨rfl, ⟨_, rfl⟩, by decide, by unfold Reference.IsKnown; decide⟩

theorem hasPlainDefinitions_sharedSample : sharedSample.HasPlainDefinitions := by
  constructor
  case oneVerb =>
    unfold Kind.AtMostOneVerb
    decide +kernel
  case no_definein => decide +kernel

open Sample in
theorem isDefinedIn_sharedSample : sharedSample.IsDefinedIn go classA ∧
    sharedSample.IsDefinedIn go classB ∧ sharedSample.IsDefinedIn run classA ∧
    ∀ c ∈ sharedSample.entities, c.kind.hasWord "class" → sharedSample.IsDefinedIn run c →
      c = classA := by
  unfold Database.IsDefinedIn
  decide +kernel

open Sample in
/-- The shared method is listed by both classes and counted to the second. The method of the first
class is counted to it in all reports. -/
theorem attribution_agrees_shared : ∃ s, start sharedSample {} = .ok s ∧
    sharedSample.HasPlainDefinitions ∧ go ∈ sharedSample.entities ∧ go.kind.hasWord "method" ∧
    s.ListsMethod classA go ∧ s.ListsMethod classB go ∧
    s.ownerClass go.id = .ok (some classB) ∧ (∃ g, sharedSample.DefinesFirst classB go g) ∧
    run ∈ sharedSample.entities ∧ run.kind.hasWord "method" ∧
    s.ownerClass run.id = .ok (some classA) ∧ s.IsCountedTo sharedSample run classA := by
  obtain ⟨s, hs⟩ := exists_start_sharedSample
  have hover := start_eq_ok_iff.mp hs
  have hplain := hasPlainDefinitions_sharedSample
  have hgo : go ∈ sharedSample.entities ∧ go.kind.hasWord "method" :=
    ⟨by simp [sharedSample, sample], by decide +kernel⟩
  have hrun : run ∈ sharedSample.entities ∧ run.kind.hasWord "method" :=
    ⟨by simp [sharedSample, sample], by decide +kernel⟩
  have hclassA : classA ∈ sharedSample.entities ∧ classA.kind.hasWord "class" :=
    ⟨by simp [sharedSample, sample], by decide +kernel⟩
  have hclassB : classB ∈ sharedSample.entities ∧ classB.kind.hasWord "class" :=
    ⟨by simp [sharedSample, sample], by decide +kernel⟩
  have howner : s.ownerClass go.id = .ok (some classB) := by
    rw [hover.eq_evaluated, hover.traversal_eq rfl]
    decide +kernel
  have hlists {c m : Entity} (hc : c ∈ sharedSample.entities ∧ c.kind.hasWord "class")
      (hm : m ∈ sharedSample.entities ∧ m.kind.hasWord "method") :
      s.ListsMethod c m ↔ sharedSample.IsDefinedIn m c :=
    (hover.listsMethod_iff hplain hc.1 hc.2 hm.2).trans (hover.exists_defines_iff hm.1 hc.2)
  obtain ⟨hgoA, hgoB, hrunA, honly⟩ := isDefinedIn_sharedSample
  rw [← hlists hclassA hgo] at hgoA
  rw [← hlists hclassB hgo] at hgoB
  rw [← hlists hclassA hrun] at hrunA
  obtain ⟨owner, hgoOwner, -, hfirst, -⟩ := attribution_agrees hs rfl hplain hgo.1 hgo.2
  obtain ⟨d, g, rfl, hg⟩ := hfirst classA hclassA.1 hclassA.2 hgoA
  obtain rfl := Option.some.inj (Except.ok.inj (hgoOwner.symm.trans howner))
  obtain ⟨owner, hrunOwner, -, -, -, hunique⟩ :=
    attribution_agrees hs rfl hplain hrun.1 hrun.2
  obtain ⟨rfl, hcounted⟩ := hunique classA hclassA.1 hclassA.2 hrunA fun c hc hclass hlisted =>
    honly c hc hclass ((hlists ⟨hc, hclass⟩ hrun).mp hlisted)
  exact ⟨s, hs, hplain, hgo.1, hgo.2, hgoA, hgoB, howner, ⟨g, hg⟩, hrun.1, hrun.2, hrunOwner,
    hcounted⟩

end Session

end CodeGraph
