import CodeGraph.Text.Delimited

/-!
# Reading delimited text

Behind the written form of a field the reader holds this field and stands outside quotes, whatever
characters the field is made of. Hence a table is read back from its written form, and two tables
have different ones.

## Main results

* `Text.Delimited.exists_place_encodeField` — the reader behind a field
* `Text.Delimited.decodeFrom_encodeRecord` — the reader behind a record
* `Text.Delimited.decode_encode` — a table is read back
-/

namespace CodeGraph.Text.Delimited

variable {d c : Char} {place : Place} {field cs rest : List Char}
  {fields record : List (List Char)} {records : List (List (List Char))}

/-! ### Steps of the reader -/

theorem decodeFrom_cons : decodeFrom d place field record (c :: cs) =
    if place == .inside then
      if c == '"' then decodeFrom d .closing field record cs
      else decodeFrom d .inside (c :: field) record cs
    else if place == .closing && c == '"' then decodeFrom d .inside (c :: field) record cs
    else if place == .start && c == '"' then decodeFrom d .inside field record cs
    else if c == d then decodeFrom d .start [] (field.reverse :: record) cs
    else if c == '\n' then (field.reverse :: record).reverse :: decodeFrom d .start [] [] cs
    else decodeFrom d .bare (c :: field) record cs := by
  -- only the end of the text depends on whether a field or a record has begun
  cases place <;> cases record <;> rfl

theorem decodeFrom_delimiter (hd : d ≠ '"') (hplace : place ≠ .inside) :
    decodeFrom d place field record (d :: cs) =
      decodeFrom d .start [] (field.reverse :: record) cs := by
  simp [decodeFrom_cons, hplace, hd]

theorem decodeFrom_lineFeed (hd : d ≠ '\n') (hplace : place ≠ .inside) :
    decodeFrom d place field record ('\n' :: cs) =
      (record.reverse ++ [field.reverse]) :: decodeFrom d .start [] [] cs := by
  simp [decodeFrom_cons, hplace, hd.symm]

/-- Characters of a bare field are taken as they are. -/
theorem decodeFrom_bare (h : ∀ c ∈ cs, isSpecial d c = false) :
    decodeFrom d .bare field record (cs ++ rest) =
      decodeFrom d .bare (cs.reverse ++ field) record rest := by
  induction cs generalizing field with
  | nil => rfl
  | cons c cs ih =>
    obtain ⟨hc, hcs⟩ := List.forall_mem_cons.mp h
    simp only [isSpecial, Bool.or_eq_false_iff] at hc
    rw [List.cons_append, decodeFrom_cons]
    simp [hc, ih hcs]

/-- Between quotes every character stands for itself but a double quote, which is doubled. -/
theorem decodeFrom_inside : decodeFrom d .inside field record (doubleQuotes cs ++ '"' :: rest) =
    decodeFrom d .closing (cs.reverse ++ field) record rest := by
  induction cs generalizing field with
  | nil => simp [doubleQuotes, decodeFrom_cons]
  | cons c cs ih =>
    rw [doubleQuotes]
    split
    next hc =>
      rw [beq_iff_eq] at hc
      subst hc
      simp [decodeFrom_cons, ih]
    next hc => simp [decodeFrom_cons, hc, ih]

/-! ### Fields, records and tables -/

theorem encode_cons (d : Char) (r : List (List Char)) (records : List (List (List Char))) :
    encode d (r :: records) = encodeRecord d r ++ '\n' :: encode d records := by
  rw [encode, List.flatMap_cons, List.append_assoc, List.singleton_append]
  rfl

/-- Behind a field the reader holds the field and stands outside quotes. -/
theorem exists_place_encodeField (d : Char) (cs : List Char) : ∃ place, place ≠ .inside ∧
    ∀ record rest, decodeFrom d .start [] record (encodeField d cs ++ rest) =
      decodeFrom d place cs.reverse record rest := by
  rw [encodeField]
  split
  next =>
    refine ⟨.closing, by decide, fun record rest => ?_⟩
    rw [List.cons_append, List.cons_append, List.append_assoc, List.singleton_append,
      decodeFrom_cons]
    simp [decodeFrom_inside]
  next h =>
    simp only [List.any_eq_true, not_exists, not_and, Bool.not_eq_true] at h
    cases cs with
    | nil => exact ⟨.start, by decide, fun record rest => rfl⟩
    | cons c cs =>
      refine ⟨.bare, by decide, fun record rest => ?_⟩
      obtain ⟨hc, hcs⟩ := List.forall_mem_cons.mp h
      simp only [isSpecial, Bool.or_eq_false_iff] at hc
      rw [List.cons_append, decodeFrom_cons]
      simp [hc, decodeFrom_bare hcs]

section Usable

variable (hquote : d ≠ '"') (hline : d ≠ '\n')
include hquote hline

/-- A record is read up to its line feed. -/
theorem decodeFrom_encodeRecord (h : fields ≠ []) :
    decodeFrom d .start [] record (encodeRecord d fields ++ '\n' :: rest) =
      (record.reverse ++ fields) :: decodeFrom d .start [] [] rest := by
  induction fields generalizing record with
  | nil => exact absurd rfl h
  | cons cs fields ih =>
    obtain ⟨place, hplace, hfield⟩ := exists_place_encodeField d cs
    cases fields with
    | nil =>
      rw [encodeRecord, List.map_singleton, List.intercalate_singleton, hfield,
        decodeFrom_lineFeed hline hplace, List.reverse_reverse]
    | cons ds fields =>
      have htail : decodeFrom d .start [] (cs :: record)
          (encodeRecord d (ds :: fields) ++ '\n' :: rest) = _ := ih (List.cons_ne_nil ds fields)
      rw [encodeRecord, List.map_cons, List.map_cons, List.intercalate_cons_cons,
        List.append_assoc, List.append_assoc, hfield, List.singleton_append,
        decodeFrom_delimiter hquote hplace, List.reverse_reverse, ← List.map_cons, ← encodeRecord,
        htail, List.reverse_cons, List.append_assoc, List.singleton_append]

/-- A table whose records have fields is read back from its written form. -/
theorem decode_encode (h : ∀ r ∈ records, r ≠ []) : decode d (encode d records) = records := by
  rw [decode]
  induction records with
  | nil => rfl
  | cons r records ih =>
    obtain ⟨hr, hrecords⟩ := List.forall_mem_cons.mp h
    rw [encode_cons, decodeFrom_encodeRecord hquote hline hr, ih hrecords, List.reverse_nil,
      List.nil_append]

end Usable

end CodeGraph.Text.Delimited
