import CodeGraph.Proofs.Session.Evaluation
import CodeGraph.Proofs.Snapshot
import CodeGraph.Proofs.Storage.Output

/-!
# Answers and the storage order

The order in which a snapshot stores its entities, references and tokens does not show in the
answers of a session over it, in its reports or in what commands print. There is one exception:
references that arrive at one entity from one place by one relation come in storage order, and maps
of dependents, where such references may come from several members of one entity, show this order.

## Main definitions

* `Session.AnswersAlike` — what does not depend on the storage order

## Main results

* `Snapshot.answers_alike` — sessions over reordered snapshots answer alike
* `Snapshot.dependents_show_order` — maps of dependents show the storage order
-/

namespace CodeGraph

/-- The sessions give the same answers, rows and outcomes. Edges are compared by what is seen of
them, and in maps of dependents tied references may change places. -/
structure Session.AnswersAlike (s s' : Session) : Prop where
  select : ∀ filter, s.select filter = s'.select filter
  find : ∀ name filter, s.find name filter = s'.find name filter
  findLongname : ∀ longname filter,
    s.findLongname longname filter = s'.findLongname longname filter
  refs : ∀ id kinds entityKinds unique,
    (s.refs id kinds entityKinds unique).map (List.map Edge.seen) =
      (s'.refs id kinds entityKinds unique).map (List.map Edge.seen)
  owner : ∀ id f,
    (s.owner id f).map (Option.map Edge.seen) = (s'.owner id f).map (Option.map Edge.seen)
  ownerClass : ∀ id, s.ownerClass id = s'.ownerClass id
  parent : ∀ id, s.parent id = s'.parent id
  dependencies : ∀ id, (s.dependencies id).map (DependencyMap.mapEdges Edge.seen) =
    (s'.dependencies id).map (DependencyMap.mapEdges Edge.seen)
  dependents : ∀ id, (∃ e, s.dependents id = .error e ∧ s'.dependents id = .error e) ∨
    ∃ m m', s.dependents id = .ok m ∧ s'.dependents id = .ok m' ∧ m.SameUpToTies m'
  tokenWalk : ∀ id selection, s.tokenWalk id selection = s'.tokenWalk id selection
  rows : ∀ kind scope, s.rows kind scope = s'.rows kind scope
  run : ∀ settings files sink command,
    Command.run s settings files sink command = Command.run s' settings files sink command

theorem Session.answersAlike {s s' : Session} {db db' : Database} {config : Config}
    (h : s.IsOver db config) (h' : s'.IsOver db' config) (halike : s.IsAlike s') :
    s.AnswersAlike s' where
  select := halike.select_eq
  find := halike.find_eq
  findLongname := halike.findLongname_eq
  refs := halike.refs_alike
  owner := halike.owner_alike
  ownerClass := halike.ownerClass_eq
  parent := halike.parent_eq
  dependencies := halike.dependencies_alike
  dependents := Session.dependents_alike h h' halike
  tokenWalk := halike.tokenWalk_eq
  rows := halike.rows_eq
  run := Session.run_eq h h' halike

namespace Snapshot

variable {snap snap' : Snapshot} {db : Database} {config : Config}

/-! ### Reordered snapshots -/

theorem IsReordered.opened_isReordered (h : snap.IsReordered snap') (hsound : snap.IsSound)
    (f : KindFilter) : (snap.opened f).IsReordered (snap'.opened f) := by
  rw [h.opened_eq hsound]
  exact ⟨rfl, rfl, h.entities, h.references, rfl, rfl, rfl⟩

/-- A session starts over a sound snapshot with valid settings. -/
theorem IsSound.exists_isOver (h : snap.IsSound) (f : KindFilter)
    (hconfig : config.validate = .ok ()) : ∃ s : Session, s.IsOver (snap.opened f) config := by
  simp only [← Session.start_eq_ok_iff]
  exact Session.exists_start_iff.mpr
    ⟨rfl, Traversal.exists_ofConfig hconfig, h.nodup, h.references⟩

/-- If a snapshot becomes a database, then so does a reordered one. Sessions with valid settings
start over both, and they answer alike. -/
theorem answers_alike (hdb : snap.toDatabase = .ok db) (h : snap.IsReordered snap')
    (hconfig : config.validate = .ok ()) : ∃ db' s s', snap'.toDatabase = .ok db' ∧
      Session.start db config = .ok s ∧ Session.start db' config = .ok s' ∧ s.AnswersAlike s' := by
  obtain ⟨hsound, f, hf, rfl⟩ := toDatabase_eq_ok_iff.mp hdb
  have hdb' : snap'.toDatabase = .ok (snap'.opened f) :=
    toDatabase_eq_ok_iff.mpr ⟨h.isSound hsound, f, h.unresolved ▸ hf, rfl⟩
  have hreordered := h.opened_isReordered hsound f
  obtain ⟨s, hs⟩ := hsound.exists_isOver f hconfig
  obtain ⟨s', hs'⟩ := (h.isSound hsound).exists_isOver f hconfig
  have halike := Session.IsOver.isAlike hreordered hs hs'
  exact ⟨_, s, s', hdb', Session.start_eq_ok_iff.mpr hs, Session.start_eq_ok_iff.mpr hs',
    Session.answersAlike hs hs' halike⟩

/-! ### Tied references -/

section Tied

open Session.Sample

/-- A class that defines a method, and some references to another class. -/
def tied (uses : List Reference) : Snapshot where
  name := "tied"
  languages := []
  unresolved := defaultUnresolved
  entities := [file, classA, run, classB]
  references := reference classA run "Define" 2 :: uses
  lexemes := []

/-- At one place the method uses the other class, and so does its own class. -/
def uses : List Reference :=
  [reference run classB "Use" 9, reference classA classB "Use" 9]

/-- The kinds that count as unresolved by default. -/
def unresolvedKinds : KindFilter :=
  ⟨[⟨["unresolved"], []⟩, ⟨["unknown"], []⟩]⟩

theorem isReordered_tied : (tied uses).IsReordered (tied uses.reverse) :=
  ⟨rfl, rfl, rfl, .refl _, .cons _ (.swap _ _ _), .refl _⟩

theorem answers_alike_tied : ∃ db, (tied uses).toDatabase = .ok db ∧
    (tied uses).IsReordered (tied uses.reverse) ∧ ({} : Config).validate = .ok () ∧
    ∃ db' s s', (tied uses.reverse).toDatabase = .ok db' ∧ Session.start db {} = .ok s ∧
      Session.start db' {} = .ok s' ∧ s.AnswersAlike s' :=
  ⟨_, rfl, isReordered_tied, rfl, answers_alike rfl isReordered_tied rfl⟩

/-- Both uses count for the class that owns the method, and their order shows. -/
theorem dependents_show_order : ∃ db db' s s', (tied uses).toDatabase = .ok db ∧
    (tied uses.reverse).toDatabase = .ok db' ∧ (tied uses).IsReordered (tied uses.reverse) ∧
    ({} : Config).validate = .ok () ∧ Session.start db {} = .ok s ∧
    Session.start db' {} = .ok s' ∧
    (s.dependents classB.id).map (DependencyMap.mapEdges Edge.seen) ≠
      (s'.dependents classB.id).map (DependencyMap.mapEdges Edge.seen) := by
  have hdb : (tied uses).toDatabase = .ok ((tied uses).opened unresolvedKinds) := rfl
  have hsound := (toDatabase_eq_ok_iff.mp hdb).1
  have hvalid : ({} : Config).validate = .ok () := rfl
  obtain ⟨s, hs⟩ := hsound.exists_isOver unresolvedKinds hvalid
  obtain ⟨s', hs'⟩ := (isReordered_tied.isSound hsound).exists_isOver unresolvedKinds hvalid
  have hm : s.dependents classB.id = .ok _ := hs.aggregate_eq_evaluated (by decide) .inverse
  have hm' : s'.dependents classB.id = .ok _ := hs'.aggregate_eq_evaluated (by decide) .inverse
  rw [hs.traversal_eq rfl] at hm
  rw [hs'.traversal_eq rfl] at hm'
  refine ⟨_, _, s, s', rfl, rfl, isReordered_tied, rfl, Session.start_eq_ok_iff.mpr hs,
    Session.start_eq_ok_iff.mpr hs', ?_⟩
  rw [hm, hm']
  -- both maps are now closed terms, which differ in the order of the two uses
  intro heq
  have hmaps := Except.ok.inj heq
  revert hmaps
  decide +kernel

end Tied

end Snapshot

end CodeGraph
