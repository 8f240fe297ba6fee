import CodeGraph.Proofs.Snapshot.File
import CodeGraph.Proofs.Snapshot.Json

/-!
# Reopened snapshots

A snapshot that is saved in JSON is loaded again as it was, if a file can be written at the path.
Saved in JSON or in binary form, it is the same snapshot afterwards.

## Main results

* `Snapshot.json_exact` — JSON forms are read back, also from files
* `Snapshot.missing_directory_refuses` — a path at which no file can be written
-/

namespace CodeGraph.Snapshot

variable {s : Snapshot} {db : Database} {files : FileTree} {path : String}

/-- Saved in JSON at a path that admits a file, a snapshot is loaded as it was. -/
theorem exists_save_load_json (hpath : FilePath.isJson path) (hfiles : files.AdmitsFile path) :
    ∃ saved, s.save files path = .ok saved ∧ load saved path = .ok s := by
  refine exists_save_load_of_read ?_ hfiles
  rw [ofFileContent, fileContent, if_pos hpath, if_pos hpath, s.ofJson?_parse?_print]

/-- The JSON form of a snapshot is read back. A database saved in this form at a path that admits a
file is opened again as it was, and so it is if it has been saved in binary form elsewhere. -/
theorem json_exact (hdb : s.toDatabase = .ok db) (hpath : FilePath.isJson path)
    (hfiles : files.AdmitsFile path) :
    (Json.parse? s.toJson.print).bind ofJson? = some s ∧
    ∃ saved, s.save files path = .ok saved ∧ load saved path = .ok s ∧
      (load saved path).bind (·.toDatabase) = .ok db ∧
      ∀ files' path', s.IsStorable → FilePath.isJson path' = false → files'.AdmitsFile path' →
        ∃ saved', s.save files' path' = .ok saved' ∧ load saved' path' = load saved path := by
  obtain ⟨saved, hsave, hload⟩ := exists_save_load_json (s := s) hpath hfiles
  refine ⟨s.ofJson?_parse?_print, saved, hsave, hload, ?_, fun files' path' h hpath' hfiles' => ?_⟩
  · rw [hload]
    exact hdb
  · obtain ⟨saved', hsave', hload'⟩ := exists_save_load h hpath' hfiles'
    exact ⟨saved', hsave', hload'.trans hload.symm⟩

/-- The extension counts in letters of any case. -/
theorem json_exact_recursive : FilePath.isJson "db.JSON" ∧ FileTree.empty.AdmitsFile "db.JSON" ∧
    ∃ db saved saved', recursive.toDatabase = .ok db ∧
      recursive.save FileTree.empty "db.JSON" = .ok saved ∧ load saved "db.JSON" = .ok recursive ∧
      (load saved "db.JSON").bind (·.toDatabase) = .ok db ∧
      recursive.save FileTree.empty "db.bin" = .ok saved' ∧
      load saved' "db.bin" = load saved "db.JSON" := by
  have hpath : FilePath.isJson "db.JSON" := by decide +kernel
  have hfiles : FileTree.empty.AdmitsFile "db.JSON" :=
    FileTree.admitsFile_empty rfl rfl (by decide) rfl rfl
  have hfiles' : FileTree.empty.AdmitsFile "db.bin" :=
    FileTree.admitsFile_empty rfl rfl (by decide) rfl rfl
  obtain ⟨db, hdb⟩ : ∃ db, recursive.toDatabase = .ok db := ⟨_, rfl⟩
  obtain ⟨-, saved, hsave, hload, hopen, hbinary⟩ := json_exact hdb hpath hfiles
  obtain ⟨saved', hsave', hload'⟩ := hbinary FileTree.empty "db.bin" (by decide) rfl hfiles'
  exact ⟨hpath, hfiles, db, saved, saved', hdb, hsave, hload, hopen, hsave', hload'⟩

/-- A snapshot cannot be saved in a directory that is missing. -/
theorem missing_directory_refuses : (∃ db, (empty "a").toDatabase = .ok db) ∧
    FilePath.isJson "missing/db.json" ∧ (empty "a").save FileTree.empty "missing/db.json" =
      .error (.io "missing/db.json" .missing) :=
  ⟨⟨_, rfl⟩, by decide +kernel, rfl⟩

end CodeGraph.Snapshot
