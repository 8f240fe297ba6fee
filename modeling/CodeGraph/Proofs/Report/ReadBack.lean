import CodeGraph.Proofs.Report.Writing
import CodeGraph.Proofs.Text.Delimited

/-!
# Reading reports back

The bytes of a written report hold the text of its rows, from which exactly these rows are read, if
the delimiter is one that checked settings can have.

## Main definitions

* `Report.read` — the rows that bytes hold

## Main results

* `Report.read_content` — the rows of a table are read from its bytes
* `Session.accepted_of_writeReport` — what is written of a report are its rows
* `Session.read_writeReport` — reports are read back as they were made
-/

namespace CodeGraph

variable {settings : Config} {d : Char} {rows : List (List String)} {row : List String}

theorem Config.isUsableDelimiter_iff :
    Config.isUsableDelimiter d ↔ d ≠ '"' ∧ d ≠ '\r' ∧ d ≠ '\n' := by
  simp [Config.isUsableDelimiter, and_assoc]

/-- The delimiter of checked settings can be used. -/
theorem Config.isUsableDelimiter_of_validate (h : settings.validate = .ok ()) :
    Config.isUsableDelimiter settings.export.delimiter := by
  obtain ⟨-, -, h⟩ := Except.bind_eq_ok_iff.mp h
  split at h
  next husable => exact husable
  next => cases h

namespace Report

/-- The rows that bytes hold as delimited text, if they hold a text. -/
def read (delimiter : Char) (bs : Bytes) : Option (List (List String)) :=
  (Bytes.toString? bs).map fun text =>
    (Text.Delimited.decode delimiter text.toList).map (·.map String.ofList)

/-- The bytes of a table are those of its written form. -/
theorem content_eq (d : Char) (rows : List (List String)) : content d rows =
    Bytes.ofString (String.ofList (Text.Delimited.encode d (rows.map (·.map String.toList)))) := by
  rw [content, lines]
  induction rows with
  | nil => exact Bytes.ofString_empty.symm
  | cons row rows ih =>
    have hrow : Bytes.ofString (line d row ++ "\n") = Bytes.ofString (String.ofList
        (Text.Delimited.encodeRecord d (row.map String.toList) ++ ['\n'])) := by
      rw [String.ofList_append]
      rfl
    rw [List.map_cons, List.flatMap_cons, ih, hrow, ← Bytes.ofString_append,
      ← String.ofList_append, List.map_cons, Text.Delimited.encode_cons, List.append_assoc,
      List.singleton_append]

/-- A table whose rows have fields is read from its bytes. -/
theorem read_content (hd : Config.isUsableDelimiter d) (h : ∀ row ∈ rows, row ≠ []) :
    read d (content d rows) = some rows := by
  obtain ⟨hquote, -, hline⟩ := Config.isUsableDelimiter_iff.mp hd
  have hrecords : ∀ r ∈ rows.map (·.map String.toList), r ≠ [] := by
    intro r hr
    obtain ⟨row, hrow, rfl⟩ := List.mem_map.mp hr
    simpa using h row hrow
  rw [read, content_eq, Bytes.toString?_eq_some_iff.mpr rfl, Option.map_some,
    String.toList_ofList, Text.Delimited.decode_encode hquote hline hrecords]
  simp [Function.comp_def]

end Report

namespace Session

variable {s : Session} {db : Database} {config : Config} {kind : ReportKind} {scope : List Entity}
  {sink sink' : Sink} {n : Nat}

/-- What is written of a report, unless writing fails, are its rows. -/
theorem accepted_of_writeReport (hrows : s.rows kind scope = .ok rows)
    (h : s.writeReport kind scope d sink = (sink', .ok n)) :
    sink'.accepted = sink.accepted ++ Report.content d rows ∧ n = Report.dataCount rows := by
  obtain ⟨after, fault, hwrite⟩ : ∃ after fault,
      sink.write (Report.content d rows) = (after, fault) := ⟨_, _, rfl⟩
  cases fault with
  | some fault => cases (writeReport_of_fault hrows hwrite).symm.trans h
  | none =>
    have hsink := Sink.accepted_of_write hwrite
    rw [writeReport_of_fits hrows hwrite] at h
    cases hflush : after.flush with
    | some fault =>
      rw [hflush] at h
      cases h
    | none =>
      rw [hflush] at h
      cases h
      exact ⟨hsink, rfl⟩

theorem writeReport_unlimited (hrows : s.rows kind scope = .ok rows) (d : Char) : ∃ sink,
    s.writeReport kind scope d Sink.unlimited = (sink, .ok (Report.dataCount rows)) :=
  ⟨_, writeReport_of_neverFails Sink.neverFails_unlimited hrows d⟩

/-- No report has a row without fields. -/
theorem ne_nil_of_mem_rows (h : s.rows kind scope = .ok rows) (hrow : row ∈ rows) : row ≠ [] := by
  have hpos : 0 < row.length := by
    rw [length_of_mem_rows h hrow]
    cases kind <;> decide
  exact List.ne_nil_of_length_pos hpos

/-- With the delimiter of checked settings every table whose rows have fields is read from its
bytes, so that different tables have different bytes. The rows of stored entities can be made, each
is as long as the header, and what is written of a report is read as its rows. -/
theorem read_writeReport (hvalid : settings.validate = .ok ())
    (hd : settings.export.delimiter = d) :
    (∀ rows : List (List String), (∀ row ∈ rows, row ≠ []) →
      Report.read d (Report.content d rows) = some rows) ∧
    (∀ rows rows' : List (List String), (∀ row ∈ rows, row ≠ []) → (∀ row ∈ rows', row ≠ []) →
      Report.content d rows = Report.content d rows' → rows = rows') ∧
    (∀ s db config, start db config = .ok s → ∀ scope, (∀ e ∈ scope, e ∈ db.entities) →
      ∀ kind, ∃ rows, s.rows kind scope = .ok rows) ∧
    ∀ (s : Session) kind scope rows, s.rows kind scope = .ok rows →
      (∀ row ∈ rows, row.length = kind.header.length) ∧
      (∃ sink, s.writeReport kind scope d Sink.unlimited = (sink, .ok (Report.dataCount rows))) ∧
      ∀ sink sink' n, s.writeReport kind scope d sink = (sink', .ok n) → ∃ written,
        sink'.accepted = sink.accepted ++ written ∧ Report.read d written = some rows := by
  have husable : Config.isUsableDelimiter d := hd ▸ Config.isUsableDelimiter_of_validate hvalid
  have hread : ∀ rows : List (List String), (∀ row ∈ rows, row ≠ []) →
      Report.read d (Report.content d rows) = some rows :=
    fun rows h => Report.read_content husable h
  refine ⟨hread, fun rows rows' h h' hcontent => ?_,
    fun s db config h scope hscope kind => (start_eq_ok_iff.mp h).exists_rows hscope kind,
    fun s kind scope rows h => ⟨fun row hrow => length_of_mem_rows h hrow,
      writeReport_unlimited h d, fun sink sink' n hwrite => ?_⟩⟩
  · exact Option.some.inj ((hread rows h).symm.trans (hcontent ▸ hread rows' h'))
  · exact ⟨_, (accepted_of_writeReport h hwrite).1,
      hread rows fun row hrow => ne_nil_of_mem_rows h hrow⟩

open Sample in
/-- A letter of the header is the delimiter. -/
theorem read_writeReport_sample :
    ({ «export» := ⟨'c'⟩ } : Config).validate = .ok () ∧ ∃ s rows sink,
      start sample {} = .ok s ∧ (∀ e ∈ [go, run], e ∈ sample.entities) ∧
      s.rows .calledBy [go, run] = .ok rows ∧ (∀ row ∈ rows, row.length = 6) ∧
      s.writeReport .calledBy [go, run] 'c' Sink.unlimited =
        (sink, .ok (Report.dataCount rows)) ∧
      Report.read 'c' sink.accepted = some rows := by
  have hvalid : ({ «export» := ⟨'c'⟩ } : Config).validate = .ok () := by rfl
  obtain ⟨s, hs⟩ := exists_start_sample
  have hscope : ∀ e ∈ [go, run], e ∈ sample.entities := by simp [sample]
  obtain ⟨-, -, hmade, hwritten⟩ := read_writeReport hvalid rfl
  obtain ⟨rows, hrows⟩ := hmade s sample {} hs [go, run] hscope .calledBy
  obtain ⟨hlength, ⟨sink, hsink⟩, hread⟩ := hwritten s .calledBy [go, run] rows hrows
  obtain ⟨written, haccepted, hread⟩ := hread _ _ _ hsink
  rw [Sink.unlimited, List.nil_append] at haccepted
  exact ⟨hvalid, s, rows, sink, hs, hscope, hrows, hlength, hsink, haccepted ▸ hread⟩

end Session

end CodeGraph
