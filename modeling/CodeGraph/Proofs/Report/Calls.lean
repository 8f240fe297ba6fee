import CodeGraph.Proofs.Kind
import CodeGraph.Proofs.Report.Rows
import CodeGraph.Proofs.Session.References

/-!
# Reports of calls

The calls of all methods and the calls to all methods are the same table, up to the order of the
rows and of the two ends of a call: both are made of the stored calls between methods, one from
their forward and the other from their inverse views.

## Main definitions

* `Edge.joinsMethods` — an edge between methods whose relation carries a word
* `Session.callerFirst` — a row of the calls to a method with the ends exchanged

## Main results

* `Session.IsOver.perm_callRows` — the rows of all methods come from the views between methods
* `Session.calls_perm_calledBy` — the two reports list the same calls
-/

namespace CodeGraph

variable {s : Session} {db : Database} {config : Config} {relation : String}
  {scope : List Entity} {forward : List Edge}

/-- The edge leads from a method to a method, by a relation that carries the word. -/
def Edge.joinsMethods (word : String) (x : Edge) : Bool :=
  x.kind.hasWord word && x.near.kind.hasWord "method" && x.far.kind.hasWord "method"

/-- Stored relations have one verb at most and do not name the inverse of a call. -/
structure Database.HasPlainCalls (db : Database) : Prop where
  oneVerb : ∀ r ∈ db.references, r.kind.AtMostOneVerb
  no_callby : ∀ r ∈ db.references, ¬ r.kind.hasWord "callby"

namespace Database.HasPlainCalls

/-- The views that make the calls are forward ones, as no inverse carries the verb. -/
theorem filter_joinsMethods_call (h : db.HasPlainCalls) (hstores : ∀ e ∈ forward, db.Stores e) :
    (forward ++ forward.map Edge.reversed).filter (Edge.joinsMethods "call") =
      forward.filter (Edge.joinsMethods "call") := by
  rw [List.filter_append, List.append_right_eq_self, List.filter_eq_nil_iff]
  intro e he
  obtain ⟨f, hf, rfl⟩ := List.mem_map.mp he
  have hno : ¬ f.kind.inverse.hasWord "call" :=
    ((hstores f hf).kind_of_forall h.oneVerb).not_hasWord_inverse (by decide)
  simp [Edge.joinsMethods, Edge.reversed, hno]

/-- The views that make the calls to methods are the inverses of those that make the calls. -/
theorem filter_joinsMethods_callby (h : db.HasPlainCalls)
    (hstores : ∀ e ∈ forward, db.Stores e) :
    (forward ++ forward.map Edge.reversed).filter (Edge.joinsMethods "callby") =
      (forward.filter (Edge.joinsMethods "call")).map Edge.reversed := by
  have hno : ∀ e ∈ forward, ¬ e.kind.hasWord "callby" := fun e he =>
    (hstores e he).kind_of_forall (P := fun k => ¬ k.hasWord "callby") h.no_callby
  have hforward : forward.filter (Edge.joinsMethods "callby") = [] := by
    rw [List.filter_eq_nil_iff]
    intro e he
    simp [Edge.joinsMethods, hno e he]
  have hreversed : forward.filter (Edge.joinsMethods "callby" ∘ Edge.reversed) =
      forward.filter (Edge.joinsMethods "call") := by
    refine List.filter_congr fun e he => ?_
    have hverb : "call" ∈ relationVerbs := by decide
    have hword : e.kind.inverse.hasWord "callby" = e.kind.hasWord "call" :=
      Bool.eq_iff_iff.mpr (Kind.hasWord_inverse_iff ((hstores e he).kind_of_forall h.oneVerb)
        hverb (hno e he))
    simp only [Function.comp_apply, Edge.joinsMethods, Edge.reversed, hword]
    rw [Bool.and_right_comm]
  rw [List.filter_append, hforward, List.nil_append, List.filter_map, hreversed]

end Database.HasPlainCalls

namespace Session

/-- A row of the calls to a method, with the calling method first. -/
def callerFirst : List String → List String
  | [calleeClass, callee, callerClass, caller, file, line] =>
    [callerClass, caller, calleeClass, callee, file, line]
  | row => row

theorem callerFirst_callRow_reversed (s : Session) (x : Edge) :
    callerFirst (s.callRow x.reversed) = s.callRow x :=
  rfl

namespace IsOver

/-- The rows of all methods come from the views between methods whose relation carries the word. -/
theorem perm_callRows (h : s.IsOver db config) (kind : ReportKind)
    (hkind : ∀ e, s.entityRows kind e = s.callRows relation e) (hrelation : relation ∈ reportWords)
    (hindex : s.index = EdgeIndex.ofForward forward)
    (hstores : ∀ e ∈ forward, db.Stores e)
    (hscope : scope.Perm (db.entities.filter (·.kind.hasWord "method"))) :
    ∃ rows, s.rows kind scope = .ok (kind.header :: rows) ∧
      rows.Perm (((forward ++ forward.map Edge.reversed).filter
        (Edge.joinsMethods relation)).map s.callRow) := by
  have hstored : ∀ e ∈ scope, e ∈ db.entities := fun e he =>
    (List.mem_filter.mp (hscope.mem_iff.mp he)).1
  refine ⟨_, rows_eq_ok fun e he => (hkind e).trans (h.callRows_eq_ok (hstored e he) hrelation), ?_⟩
  have hviews := h.perm_flatMap_leaving hindex hstores (·.kind.hasWord "method")
  have hlisted := (hscope.flatMap_right fun e => s.index.leaving e.id).trans hviews
  -- each block selects from its list, so that all blocks select from all lists together
  have hselected := (hlisted.filter fun x =>
    (wordFilter relation).selects x.kind && (wordFilter "method").selects x.far.kind).map s.callRow
  rw [List.filter_flatMap, List.map_flatMap, List.filter_filter] at hselected
  refine hselected.trans (List.Perm.of_eq ?_)
  congr 2
  funext x
  rw [selects_wordFilter, selects_wordFilter, Edge.joinsMethods, Bool.and_right_comm]

end IsOver

/-- The rows of the calls of all methods are those of the calls to all methods, with the calling
method put first, in another order. There is one for each stored call between methods. -/
theorem calls_perm_calledBy (h : start db config = .ok s) (hdb : db.HasPlainCalls)
    (hscope : scope.Perm (db.entities.filter (·.kind.hasWord "method"))) :
    ∃ calls calledBy, s.rows .calls scope = .ok (ReportKind.calls.header :: calls) ∧
      s.rows .calledBy scope = .ok (ReportKind.calledBy.header :: calledBy) ∧
      calls.Perm (calledBy.map callerFirst) ∧ calls.length = calledBy.length ∧
      ∃ edges : List Edge, edges.Nodup ∧
        (∀ x, x ∈ edges ↔ db.Stores x ∧ x.joinsMethods "call") ∧
        calls.Perm (edges.map s.callRow) := by
  have hover := start_eq_ok_iff.mp h
  obtain ⟨forward, hindex, hrecord, hmem⟩ := hover.exists_forward
  have hstores : ∀ e ∈ forward, db.Stores e := fun e he => (hmem e).mp he
  obtain ⟨calls, hcalls, hperm⟩ :=
    hover.perm_callRows .calls (fun _ => rfl) (by decide) hindex hstores hscope
  obtain ⟨calledBy, hcalledBy, hperm'⟩ :=
    hover.perm_callRows .calledBy (fun _ => rfl) (by decide) hindex hstores hscope
  rw [hdb.filter_joinsMethods_call hstores] at hperm
  rw [hdb.filter_joinsMethods_callby hstores, List.map_map] at hperm'
  have hfirst := hperm'.map callerFirst
  have hview : callerFirst ∘ s.callRow ∘ Edge.reversed = s.callRow :=
    funext (callerFirst_callRow_reversed s)
  rw [List.map_map, hview] at hfirst
  have hrows : calls.Perm (calledBy.map callerFirst) := hperm.trans hfirst.symm
  have hnodup : forward.Nodup := List.Nodup.of_map _ (hrecord ▸ List.nodup_range)
  refine ⟨calls, calledBy, hcalls, hcalledBy, hrows, ?_, _, hnodup.filter _, fun x => ?_, hperm⟩
  · simpa using hrows.length_eq
  · rw [List.mem_filter, hmem]

open Sample in
theorem calls_perm_calledBy_sample : ∃ s, start sample {} = .ok s ∧ sample.HasPlainCalls ∧
    [run, go].Perm (sample.entities.filter (·.kind.hasWord "method")) ∧
    ∃ calls calledBy, s.rows .calls [run, go] = .ok (ReportKind.calls.header :: calls) ∧
      s.rows .calledBy [run, go] = .ok (ReportKind.calledBy.header :: calledBy) ∧
      calls.Perm (calledBy.map callerFirst) ∧ s.callRow call ∈ calls := by
  obtain ⟨s, hs⟩ := exists_start_sample
  have hplain : sample.HasPlainCalls := by
    constructor
    case oneVerb =>
      unfold Kind.AtMostOneVerb
      decide +kernel
    case no_callby => decide +kernel
  have hscope : [run, go].Perm (sample.entities.filter (·.kind.hasWord "method")) := by
    have hmethods : sample.entities.filter (·.kind.hasWord "method") = [go, run] := by
      decide +kernel
    rw [hmethods]
    exact List.Perm.swap go run []
  obtain ⟨calls, calledBy, hcalls, hcalledBy, hrows, -, edges, -, hedges, hperm⟩ :=
    calls_perm_calledBy hs hplain hscope
  refine ⟨s, hs, hplain, hscope, calls, calledBy, hcalls, hcalledBy, hrows, ?_⟩
  have hcall : call ∈ edges := (hedges call).mpr ⟨stores_call_sample, by decide +kernel⟩
  exact hperm.mem_iff.mpr (List.mem_map_of_mem hcall)

end Session

end CodeGraph
