import CodeGraph.Proofs.Bytes
import CodeGraph.Proofs.Report.Rows
import CodeGraph.Proofs.Sink
import CodeGraph.Report.Export

/-!
# Where reports can be written

A sink that never fails takes any report. A path takes it or not, whatever the report holds, since
no report is empty.

## Main definitions

* `FileTree.Refuses` — nothing can be written at a path

## Main results

* `FileTree.refuses_of_replace` — what can be written at a path does not depend on the content
* `Session.writeReport_of_neverFails` — a sink that never fails takes the report on stored entities
* `Session.exportReport_eq_error_iff` — a path takes it unless it refuses everything
-/

namespace CodeGraph

/-- Every content but the empty one is refused at the path. -/
def FileTree.Refuses (t : FileTree) (path : String) (fault : IoFault) : Prop :=
  ∀ content ≠ [], t.replace path content = .error fault

namespace FileTree

variable {t : FileTree} {path : String} {content : Bytes} {fault : IoFault}

/-- What is refused at a path is refused whatever the content is, unless it is empty. -/
theorem refuses_of_replace (h : t.replace path content = .error fault) (hcontent : content ≠ []) :
    t.Refuses path fault := by
  intro other hother
  rw [replace] at h ⊢
  -- the content is not looked at before the place is known
  refine Except.bind_eq_error_of_imp h ?_
  rintro ⟨key, segments⟩ h
  refine Except.bind_eq_error_of_imp h fun parent h => ?_
  refine Except.bind_eq_error_of_imp h fun _ h => ?_
  dsimp only at h ⊢
  split at h
  next hdirectory =>
    rw [if_pos hdirectory]
    cases h
    rfl
  next hdirectory =>
    rw [if_neg hdirectory]
    refine Except.bind_eq_error_of_imp h fun place h => ?_
    have hempty : content.isEmpty = false := by simpa using hcontent
    have hempty' : other.isEmpty = false := by simpa using hother
    cases hnode : t.lookup place with
    | none =>
      rw [hnode] at h
      cases h
    | some n =>
      rw [hnode] at h
      cases n with
      | directory => exact h
      | fullDevice => simpa only [hempty, hempty'] using h
      | nullDevice | zeroDevice | standardOutput | file => cases h

end FileTree

namespace Report

theorem content_ne_nil {d : Char} {rows : List (List String)} (h : rows ≠ []) :
    content d rows ≠ [] := by
  obtain ⟨row, rows, rfl⟩ := List.exists_cons_of_ne_nil h
  refine List.append_ne_nil_of_left_ne_nil (List.ne_nil_of_length_pos ?_) _
  rw [Bytes.length_ofString, String.utf8ByteSize_append]
  exact Nat.lt_add_left _ (by decide)

/-- The lines of a report are accepted as if its content were offered at once. -/
theorem write_content (sink : Sink) (d : Char) (rows : List (List String)) :
    sink.write (content d rows) = sink.writeLines (lines d rows) :=
  (sink.writeLines_eq_write _).symm

end Report

namespace Session

variable {s : Session} {kind : ReportKind} {scope : List Entity} {rows : List (List String)}
  {d : Char} {sink after : Sink} {fault : IoFault} {files : FileTree} {path : String} {e : Error}

/-- A report has a header at least. -/
theorem ne_nil_of_rows (h : s.rows kind scope = .ok rows) : rows ≠ [] := by
  obtain ⟨blocks, -, h⟩ := Except.bind_eq_ok_iff.mp h
  cases h
  exact List.cons_ne_nil _ _

theorem writeReport_of_fault (hrows : s.rows kind scope = .ok rows)
    (hwrite : sink.write (Report.content d rows) = (after, some fault)) :
    s.writeReport kind scope d sink = (after, .error (.io Report.sinkName fault)) := by
  rw [Report.write_content] at hwrite
  rw [writeReport, hrows]
  dsimp only
  rw [Report.write, hwrite]

/-- Once the whole report has been accepted the sink is flushed. -/
theorem writeReport_of_fits (hrows : s.rows kind scope = .ok rows)
    (hwrite : sink.write (Report.content d rows) = (after, none)) :
    s.writeReport kind scope d sink = (after,
      match after.flush with
      | some fault => .error (.io Report.sinkName fault)
      | none => .ok (Report.dataCount rows)) := by
  rw [Report.write_content] at hwrite
  rw [writeReport, hrows]
  dsimp only
  rw [Report.write, hwrite]
  cases hflush : after.flush <;> simp [hflush]

/-- A sink that never fails takes a report whose rows can be made. -/
theorem writeReport_of_neverFails (hsink : sink.NeverFails) (hrows : s.rows kind scope = .ok rows)
    (d : Char) : s.writeReport kind scope d sink =
      ({ sink with accepted := sink.accepted ++ Report.content d rows },
        .ok (Report.dataCount rows)) := by
  rw [writeReport_of_fits hrows (Sink.write_unbounded hsink.capacity _)]
  simp [Sink.flush, hsink.flushable]

/-- A report whose rows can be made is not written to a file only if nothing can be written
there. -/
theorem exportReport_eq_error_iff (hrows : s.rows kind scope = .ok rows) (d : Char) :
    s.exportReport kind scope d files path = .error e ↔
      ∃ fault, files.Refuses path fault ∧ e = .io path fault := by
  have hcontent : Report.content d rows ≠ [] := Report.content_ne_nil (ne_nil_of_rows hrows)
  rw [exportReport, hrows]
  simp only [bind, Except.bind, Report.save]
  cases hreplace : files.replace path (Report.content d rows) with
  | error fault =>
    have hrefuses := FileTree.refuses_of_replace hreplace hcontent
    constructor
    · intro h
      cases h
      exact ⟨fault, hrefuses, rfl⟩
    · rintro ⟨fault', hrefuses', rfl⟩
      have hsame := (hrefuses _ hcontent).symm.trans (hrefuses' _ hcontent)
      cases hsame
      rfl
  | ok files' =>
    constructor
    · intro h
      cases h
    · rintro ⟨fault, hrefuses, -⟩
      cases hreplace.symm.trans (hrefuses _ hcontent)

end Session

end CodeGraph
