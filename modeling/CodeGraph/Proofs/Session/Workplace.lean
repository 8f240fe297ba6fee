import CodeGraph.Proofs.Session.Closing
import CodeGraph.Report.Export

/-!
# Sessions in use

The owner of a database can close it and open it again while a session over it is in use. As long as
it is closed, what is asked fails and nothing is written. Once it is open again the session is the
one that it was. The header of a report on no entity, however, is written even of a closed database.

## Main definitions

* `Session.Act` — what can be done with a session in use
* `Session.Workplace` — a session with what its user writes to
* `Session.Workplace.step`, `Session.Workplace.run` — the workplace after one act, and after several

## Main results

* `Session.Workplace.reopen_session_run` — a run changes nothing but whether the database is open
* `Session.Workplace.step_of_isClosed` — an act on a closed database fails and writes nothing
* `Session.Workplace.closed_until_reopened` — both within a run
* `Session.Workplace.closed_writes_header` — a header written of a closed database
-/

namespace CodeGraph

namespace Session

variable {s : Session} {db : Database} {config : Config}

/-! ### Acts -/

/-- What can be done with a session in use. -/
inductive Act where
  /-- The owner of the database closes it. -/
  | close
  /-- The owner of the database opens it again. -/
  | reopen
  | ask (q : Query)
  | write (kind : ReportKind) (scope : List Entity) (delimiter : Char)
  | exportTo (path : String) (kind : ReportKind) (scope : List Entity) (delimiter : Char)

namespace Act

/-- Something is asked of the database. -/
def IsRequest : Act → Prop
  | close | reopen => False
  | ask _ | write .. | exportTo .. => True

/-- The filter expressions among the arguments. -/
def filters : Act → List String
  | ask q => q.filters
  | close | reopen | write .. | exportTo .. => []

/-- The entities of which a report is asked. -/
def reported : Act → Option (List Entity)
  | ask q => q.reported
  | write _ scope _ | exportTo _ _ scope _ => some scope
  | close | reopen => none

end Act

/-! ### Workplaces -/

/-- A session with the sink and the files that its user writes to. -/
structure Workplace where
  session : Session
  sink : Sink
  files : FileTree

namespace Workplace

variable {w : Workplace} {act : Act}

/-- The workplace after an act, and the answer to what is asked. -/
def step (w : Workplace) : Act → Workplace × Option (Except Error Answer)
  | .close => ({ w with session := w.session.close }, none)
  | .reopen => ({ w with session := w.session.reopen }, none)
  | .ask q => (w, some (q.answer w.session))
  | .write kind scope delimiter =>
    let (sink, result) := w.session.writeReport kind scope delimiter w.sink
    ({ w with sink }, some (result.map .count))
  | .exportTo path kind scope delimiter =>
    match w.session.exportReport kind scope delimiter w.files path with
    | .ok (files, n) => ({ w with files }, some (.ok (.count n)))
    | .error e => (w, some (.error e))

/-- The workplace after several acts. -/
def run (w : Workplace) (acts : List Act) : Workplace :=
  acts.foldl (fun w act => (w.step act).1) w

/-- Opening an open database changes nothing. -/
theorem reopen_eq_self (h : s.database.isOpen) : s.reopen = s := by
  rw [Session.reopen, Database.reopen, ← h]

/-- An act changes nothing of the session but whether its database is open. -/
theorem reopen_session_step (w : Workplace) (act : Act) :
    (w.step act).1.session.reopen = w.session.reopen := by
  cases act with
  | close => rfl
  | reopen => rfl
  | ask q => rfl
  | write kind scope delimiter => rfl
  | exportTo path kind scope delimiter =>
    rw [step]
    split <;> rfl

/-- A run changes nothing of the session but whether its database is open. -/
theorem reopen_session_run (w : Workplace) (acts : List Act) :
    (w.run acts).session.reopen = w.session.reopen := by
  induction acts generalizing w with
  | nil => rfl
  | cons act acts ih => exact (ih (w.step act).1).trans (w.reopen_session_step act)

/-- A closed database leaves sink and files alone, unless it is asked for a report on no entity. -/
theorem step_of_isClosed (h : w.session.IsClosed) (hrequest : act.IsRequest)
    (hreported : act.reported ≠ some []) :
    (w.step act).1 = w ∧ ∃ e, (w.step act).2 = some (.error e) ∧ IsRefusal act.filters e := by
  cases act with
  | close => cases hrequest
  | reopen => cases hrequest
  | ask q =>
    obtain ⟨e, he, hrefusal⟩ := q.answer_of_isClosed h hreported
    exact ⟨rfl, e, congrArg some he, hrefusal⟩
  | write kind scope delimiter =>
    have hrows := h.rows kind fun hscope => hreported (congrArg some hscope)
    have hwrite : w.session.writeReport kind scope delimiter w.sink = (w.sink, .error .closed) := by
      rw [writeReport, hrows]
    rw [step, hwrite]
    exact ⟨rfl, .closed, rfl, Or.inl rfl⟩
  | exportTo path kind scope delimiter =>
    have hrows := h.rows kind fun hscope => hreported (congrArg some hscope)
    have hexport : w.session.exportReport kind scope delimiter w.files path = .error .closed := by
      rw [exportReport, hrows]
      rfl
    rw [step, hexport]
    exact ⟨rfl, .closed, rfl, Or.inl rfl⟩

/-- Whenever in a run the database is open, the session is the one that was started, and whenever it
is closed, what is asked fails and changes nothing, unless it is a report on no entity. -/
theorem closed_until_reopened (w : Workplace) (h : start db config = .ok w.session)
    (acts : List Act) :
    ((w.run acts).session.database.isOpen → (w.run acts).session = w.session) ∧
    ((w.run acts).session.IsClosed → ∀ act : Act, act.IsRequest → act.reported ≠ some [] →
      ((w.run acts).step act).1 = w.run acts ∧
      ∃ e, ((w.run acts).step act).2 = some (.error e) ∧ IsRefusal act.filters e) := by
  refine ⟨fun hopen => ?_, fun hclosed act => step_of_isClosed hclosed⟩
  have hover := start_eq_ok_iff.mp h
  have hstart : w.session.database.isOpen := hover.database ▸ hover.isOpen
  -- both databases are open, so that nothing is left in which the sessions could differ
  rw [← reopen_eq_self hopen, reopen_session_run, reopen_eq_self hstart]

/-- The database is closed and a report is written in vain; it is opened again, asked something, and
closed once more. -/
theorem closed_until_reopened_sample : ∃ s, start sample {} = .ok s ∧
    let w : Workplace := ⟨s, .unlimited, .empty⟩
    let acts : List Act :=
      [.close, .write .calls [Sample.run] ',', .reopen, .ask (.ownerClass Sample.run.id)]
    (w.run acts).session = s ∧ (w.run (acts ++ [.close])).session.IsClosed ∧
    ∃ e, ((w.run (acts ++ [.close])).step (.write .calls [Sample.run] ',')).2 =
      some (.error e) := by
  obtain ⟨s, hs⟩ := exists_start_sample
  refine ⟨s, hs, ?_⟩
  intro w acts
  have hclosed : (w.run (acts ++ [.close])).session.IsClosed := rfl
  obtain ⟨-, e, he, -⟩ := (closed_until_reopened w hs (acts ++ [.close])).2 hclosed
    (.write .calls [Sample.run] ',') trivial (by simp [Act.reported])
  exact ⟨(closed_until_reopened w hs acts).1 rfl, hclosed, e, he⟩

/-- A report on no entity is made of a closed database, and replaces what a file held. -/
theorem closed_writes_header : ∃ s, start sample {} = .ok s ∧ s.close.IsClosed ∧
    s.close.rows .depends [] = .ok [["source", "target", "references"]] ∧
    let files := FileTree.empty.put (FileTree.workingDirectory ++ ["o.csv".toList]) (.file [0x78])
    let w : Workplace := ⟨s.close, .unlimited, files⟩
    files.node "o.csv" = .ok (.file [0x78]) ∧
    (w.step (.exportTo "o.csv" .depends [] ',')).2 = some (.ok (.count 0)) ∧
    (w.step (.exportTo "o.csv" .depends [] ',')).1.files.node "o.csv" =
      .ok (.file (Bytes.ofString "source,target,references\n")) := by
  obtain ⟨s, hs⟩ := exists_start_sample
  have hcontent : Report.content ',' [ReportKind.depends.header] =
      Bytes.ofString "source,target,references\n" := by
    decide +kernel
  refine ⟨s, hs, rfl, rfl, rfl, rfl, ?_⟩
  rw [← hcontent]
  rfl

end Workplace

end Session

end CodeGraph
