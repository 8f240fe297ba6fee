import CodeGraph.Proofs.FileTree
import CodeGraph.Proofs.Snapshot.Binary
import CodeGraph.Snapshot.File

/-!
# Saved snapshots

A snapshot that is saved in binary form is loaded again as it was, if a file can be written at the
path. A path can also lead to a device, which accepts a snapshot and keeps nothing.

## Main results

* `Snapshot.binary_exact` — binary forms are read back, also from files
* `Snapshot.nullDevice_loses_snapshot` — a saved snapshot that cannot be loaded
-/

namespace CodeGraph.Snapshot

variable {s : Snapshot} {files : FileTree} {path : String}

/-- Any bytes may follow the binary form. -/
theorem ofBinary_toBinary_append (h : s.IsStorable) (bs : Bytes) :
    ofBinary (s.toBinary ++ bs) = .ok s :=
  ofBinary_eq_ok_iff.mpr ⟨h, List.prefix_append _ _⟩

/-- Saved at a path that admits a file, a snapshot is loaded as it was if its form is read back. -/
theorem exists_save_load_of_read (hread : ofFileContent path (s.fileContent path) = .ok s)
    (hfiles : files.AdmitsFile path) :
    ∃ saved, s.save files path = .ok saved ∧ load saved path = .ok s := by
  obtain ⟨saved, hreplace, hnode⟩ := hfiles.replace_node (s.fileContent path)
  refine ⟨saved, by rw [save, hreplace], ?_⟩
  rw [load, hnode]
  simp only [ofNode, FileNode.content?, hread]
  rfl

/-- Saved in binary form at a path that admits a file, a snapshot is loaded as it was. -/
theorem exists_save_load (h : s.IsStorable) (hpath : FilePath.isJson path = false)
    (hfiles : files.AdmitsFile path) :
    ∃ saved, s.save files path = .ok saved ∧ load saved path = .ok s := by
  refine exists_save_load_of_read ?_ hfiles
  have hwhole := ofBinary_toBinary_append h []
  rw [List.append_nil] at hwhole
  simp [ofFileContent, fileContent, hpath, hwhole]

/-- Whatever follows its binary form, a snapshot is read from it, and what is read from some bytes
has its binary form at their front. Hence no binary form begins another one, and a database that is
saved in this form at a path that admits a file is opened again as it was. -/
theorem binary_exact (h : s.IsStorable) :
    (∀ bs, ofBinary (s.toBinary ++ bs) = .ok s) ∧
    (∀ bs s', ofBinary bs = .ok s' → s'.toBinary <+: bs) ∧
    (∀ s', s'.IsStorable → s'.toBinary <+: s.toBinary → s' = s) ∧
    ∀ db files path, s.toDatabase = .ok db → FilePath.isJson path = false →
      files.AdmitsFile path → ∃ saved, s.save files path = .ok saved ∧ load saved path = .ok s ∧
        (load saved path).bind (·.toDatabase) = .ok db := by
  refine ⟨ofBinary_toBinary_append h, fun bs s' hread => (ofBinary_eq_ok_iff.mp hread).2,
    fun s' h' hprefix => ?_, fun db files path hdb hpath hfiles => ?_⟩
  · have hwhole := ofBinary_toBinary_append h []
    rw [List.append_nil, ofBinary_eq_ok_iff.mpr ⟨h', hprefix⟩] at hwhole
    exact Except.ok.inj hwhole
  · obtain ⟨saved, hsave, hload⟩ := exists_save_load h hpath hfiles
    refine ⟨saved, hsave, hload, ?_⟩
    rw [hload]
    exact hdb

/-! ### Files and devices -/

/-- A program of one function that calls itself, with the token of its name. -/
def recursive : Snapshot where
  name := "recursive"
  languages := ["C"]
  unresolved := defaultUnresolved
  entities := [⟨⟨1⟩, "f.c", "src/f.c", Kind.ofName "C File", []⟩,
    ⟨⟨2⟩, "f", "f", Kind.ofName "C Function", ["int", "größe"]⟩]
  references := [⟨⟨2⟩, ⟨2⟩, Kind.ofName "C Call", ⟨1⟩, ⟨3, 10⟩⟩]
  lexemes := [⟨⟨1⟩, [⟨.identifier, "f", ⟨3, 10⟩, ⟨3, 11⟩, some ⟨2⟩⟩]⟩]

theorem binary_exact_recursive : recursive.IsStorable ∧ FilePath.isJson "db.bin" = false ∧
    FileTree.empty.AdmitsFile "db.bin" ∧ ∃ db saved, recursive.toDatabase = .ok db ∧
    recursive.save FileTree.empty "db.bin" = .ok saved ∧ load saved "db.bin" = .ok recursive ∧
    (load saved "db.bin").bind (·.toDatabase) = .ok db := by
  have hstorable : recursive.IsStorable := by decide
  have hpath : FilePath.isJson "db.bin" = false := by rfl
  have hfiles : FileTree.empty.AdmitsFile "db.bin" :=
    ⟨{ key := FileTree.workingDirectory
       front := []
       name := "db.bin".toList
       parent := FileTree.workingDirectory
       place := FileTree.workingDirectory ++ ["db.bin".toList]
       start_eq := rfl
       not_idle := rfl
       ne_above := by decide
       walk_eq := rfl
       expect_eq := rfl
       child_eq := rfl
       free := Or.inl rfl }⟩
  obtain ⟨db, hdb⟩ : ∃ db, recursive.toDatabase = .ok db := ⟨_, rfl⟩
  obtain ⟨-, -, -, hsaved⟩ := binary_exact hstorable
  obtain ⟨saved, hsave, hload, hopen⟩ := hsaved db FileTree.empty "db.bin" hdb hpath hfiles
  exact ⟨hstorable, hpath, hfiles, db, saved, hdb, hsave, hload, hopen⟩

/-- The null device accepts a snapshot, but nothing is there when it is loaded again. -/
theorem nullDevice_loses_snapshot : (empty "a").IsStorable ∧
    (∃ db, (empty "a").toDatabase = .ok db) ∧ FilePath.isJson "/dev/null" = false ∧
    ∃ saved, (empty "a").save FileTree.empty "/dev/null" = .ok saved ∧
      load saved "/dev/null" = .error (.malformedSnapshot "/dev/null") :=
  ⟨by decide, ⟨_, rfl⟩, rfl, FileTree.empty, rfl, rfl⟩

end CodeGraph.Snapshot
