import CodeGraph.Proofs.Membership
import CodeGraph.Proofs.Storage.Session
import CodeGraph.TokenWalk

/-!
# Queries of alike sessions

Alike sessions give the same answers to queries for entities and tokens, and answers that are seen
to be the same to queries for references and owners.
-/

namespace CodeGraph

/-- A choice that looks at what is seen only is the same for edges that are seen to be the same. -/
theorem Edge.map_seen_filter {xs ys : List Edge} (h : xs.map Edge.seen = ys.map Edge.seen)
    (p : Edge → Bool) :
    (xs.filter (p ·.seen)).map Edge.seen = (ys.filter (p ·.seen)).map Edge.seen := by
  have hfilter := congrArg (List.filter p) h
  rw [List.filter_map, List.filter_map] at hfilter
  exact hfilter

namespace Session.IsAlike

variable {s s' : Session}

/-! ### Entities and tokens -/

theorem ensureOpen_eq (h : s.IsAlike s') : s.ensureOpen = s'.ensureOpen := by
  rw [ensureOpen, ensureOpen, h.isOpen]

theorem queried_eq (h : s.IsAlike s') (id : EntityId) : s.queried id = s'.queried id := by
  simp only [queried, known, h.ensureOpen_eq, h.catalog]

theorem selectBy_eq (h : s.IsAlike s') (f : KindFilter) : s.selectBy f = s'.selectBy f := by
  simp only [selectBy, h.ensureOpen_eq, h.catalog]

theorem select_eq (h : s.IsAlike s') (filter : String) : s.select filter = s'.select filter := by
  simp only [select, h.selectBy_eq]

theorem find_eq (h : s.IsAlike s') (name : String) (filter : Option String) :
    s.find name filter = s'.find name filter := by
  simp only [find, nameFilter, h.ensureOpen_eq, h.catalog]

theorem findLongname_eq (h : s.IsAlike s') (longname : String) (filter : Option String) :
    s.findLongname longname filter = s'.findLongname longname filter := by
  simp only [findLongname, nameFilter, h.ensureOpen_eq, h.catalog]

theorem require_eq (h : s.IsAlike s') (name : String) (filter : Option String) (what : String) :
    s.require name filter what = s'.require name filter what := by
  simp only [require, h.find_eq]

theorem tokenWalk_eq (h : s.IsAlike s') (id : EntityId) (selection : TokenSelection) :
    s.tokenWalk id selection = s'.tokenWalk id selection := by
  simp only [tokenWalk, h.queried_eq, h.tokensOf, h.catalog]

/-! ### References -/

theorem map_leaving (h : s.IsAlike s') (id : EntityId) :
    (s.index.leaving id).map Edge.seen = (s'.index.leaving id).map Edge.seen := by
  simpa using h.leaving id fun _ => true

theorem map_selectedEdges (h : s.IsAlike s') (id : EntityId) (kinds entityKinds : KindFilter) :
    (s.selectedEdges id kinds entityKinds).map Edge.seen =
      (s'.selectedEdges id kinds entityKinds).map Edge.seen :=
  Edge.map_seen_filter (h.map_leaving id) fun e =>
    kinds.selects e.kind && entityKinds.selects e.far.kind

/-- Collapsing and sorting by the far end look at what is seen only. -/
theorem map_seen_unique (es : List Edge) :
    ((firstOfKey pairing [] es).mergeSort byFarEnd).map Edge.seen =
      (firstOfKey pairing [] (es.map Edge.seen)).mergeSort byFarEnd := by
  have hfirst : (firstOfKey pairing [] es).map Edge.seen =
      firstOfKey pairing [] (es.map Edge.seen) := map_firstOfKey pairing Edge.seen [] es
  rw [← hfirst]
  exact List.map_mergeSort fun _ _ _ _ => rfl

theorem refsBy_alike (h : s.IsAlike s') (id : EntityId) (kinds entityKinds : KindFilter)
    (unique : Bool) : (s.refsBy id kinds entityKinds unique).map (List.map Edge.seen) =
      (s'.refsBy id kinds entityKinds unique).map (List.map Edge.seen) := by
  rw [refsBy, refsBy, h.queried_eq]
  cases s'.queried id with
  | error e => rfl
  | ok e =>
    have hselected := h.map_selectedEdges e.id kinds entityKinds
    apply congrArg Except.ok
    cases unique with
    | false => exact hselected
    | true =>
      rw [if_pos rfl, if_pos rfl, map_seen_unique, map_seen_unique, hselected]

theorem refs_alike (h : s.IsAlike s') (id : EntityId) (kinds entityKinds : Option String)
    (unique : Bool) : (s.refs id kinds entityKinds unique).map (List.map Edge.seen) =
      (s'.refs id kinds entityKinds unique).map (List.map Edge.seen) := by
  simp only [refs, bind, Except.bind]
  cases KindFilter.parse? kinds with
  | error e => rfl
  | ok kinds =>
    cases KindFilter.parse? entityKinds with
    | error e => rfl
    | ok entityKinds => exact h.refsBy_alike id kinds entityKinds unique

/-! ### Owners -/

/-- The owner edge is the first of the inverse edges, whose order is the same. -/
theorem map_ownerEdge? (h : s.IsAlike s') (id : EntityId) (f : KindFilter) :
    (s.ownerEdge? id f).map Edge.seen = (s'.ownerEdge? id f).map Edge.seen := by
  -- being inverse is not seen of an edge, so the inverse edges are selected first
  have hfind (t : Session) : (t.ownerEdge? id f).map Edge.seen =
      (((t.index.leaving id).filter (·.direction = .inverse)).map Edge.seen).find? fun e =>
        t.traversal.ownerRelation.selects e.kind && f.selects e.far.kind := by
    rw [List.find?_map, List.find?_filter]
    refine congrArg (fun p => ((t.index.leaving id).find? p).map Edge.seen) (funext fun e => ?_)
    by_cases hinverse : e.direction = .inverse <;>
      simp [Edge.isInverse, Edge.seen, hinverse]
  have hinverse := h.leaving id fun d => d = .inverse
  rw [hfind s, hfind s', hinverse, h.traversal]

theorem parent?_eq (h : s.IsAlike s') (e : Entity) : s.parent? e = s'.parent? e := by
  have howner := congrArg (Option.map Edge.far) (h.map_ownerEdge? e.id KindFilter.all)
  rw [Option.map_map, Option.map_map] at howner
  exact howner

theorem owner_alike (h : s.IsAlike s') (id : EntityId) (f : KindFilter) :
    (s.owner id f).map (Option.map Edge.seen) = (s'.owner id f).map (Option.map Edge.seen) := by
  rw [owner, owner, h.queried_eq]
  cases s'.queried id with
  | error e => rfl
  | ok e => exact congrArg Except.ok (h.map_ownerEdge? e.id f)

theorem ownerClass_eq (h : s.IsAlike s') (id : EntityId) : s.ownerClass id = s'.ownerClass id := by
  rw [ownerClass, ownerClass, h.queried_eq, h.traversal]
  cases s'.queried id with
  | error e => rfl
  | ok e =>
    have howner := congrArg (Option.map Edge.far)
      (h.map_ownerEdge? e.id s'.traversal.ownerKinds)
    rw [Option.map_map, Option.map_map] at howner
    exact congrArg Except.ok howner

theorem parent_eq (h : s.IsAlike s') (id : EntityId) : s.parent id = s'.parent id := by
  simp only [parent, h.queried_eq, h.parent?_eq]

/-! ### Members and ancestors -/

/-- What an entity contains is at the far ends of its forward edges, whose order is the same. -/
theorem contents_eq (h : s.IsAlike s') (category : String) (e : Entity) :
    s.contents category e = s'.contents category e := by
  rw [contents, contents, h.traversal]
  cases s'.traversal.containment with
  | none => rfl
  | some f =>
    have hfilter (t : Session) : ((t.index.leaving e.id).filter fun x =>
        !x.isInverse && f.selects x.kind && x.far.kind.category != category).map Edge.far =
        ((((t.index.leaving e.id).filter (! ·.isInverse)).map Edge.seen).filter fun x =>
          f.selects x.kind && x.far.kind.category != category).map Edge.far := by
      rw [List.filter_map, List.map_map, List.filter_filter]
      congr 2
      funext x
      simp only [Function.comp_apply, Edge.seen]
      cases x.isInverse <;> simp
    have hforward := h.leaving e.id fun d => !decide (d = .inverse)
    show List.map _ _ = List.map _ _
    rw [hfilter s, hfilter s']
    exact congrArg _ (congrArg _ hforward)

theorem gather_eq (h : s.IsAlike s') (category : String) (n : Nat) (pending found : List Entity) :
    s.gather category n pending found = s'.gather category n pending found := by
  induction n generalizing pending found with
  | zero => rfl
  | succ n ih =>
    cases pending with
    | nil => rfl
    | cons e pending => simp only [gather, h.contents_eq, ih]

theorem members_eq (h : s.IsAlike s') (root : Entity) : s.members root = s'.members root := by
  rw [members, members, h.gather_eq, h.catalog]

theorem ancestor?_eq (h : s.IsAlike s') (category : String) (n : Nat) (e : Entity) :
    s.ancestor? category n e = s'.ancestor? category n e := by
  induction n generalizing e with
  | zero => rfl
  | succ n ih => simp only [ancestor?, h.parent?_eq, ih]

theorem lift_eq (h : s.IsAlike s') (category : String) (e : Entity) :
    s.lift category e = s'.lift category e := by
  rw [lift, lift, h.ancestor?_eq, h.catalog]

end Session.IsAlike

end CodeGraph
