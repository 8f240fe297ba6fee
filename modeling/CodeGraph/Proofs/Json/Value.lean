import CodeGraph.Proofs.Json.Number

/-!
# Printed values

A printed value is read back as it was, if its numbers are decimal forms and its texts and keys are
given. The reader passes over the line feeds and indentation of the printer, and takes no more than
what was printed.

## Main definitions

* `Json.IsPrintable` — a value that can be read back
* `Json.ReadsBack` — a value that is read back, whatever follows

## Main results

* `Json.IsPrintable.readsBack` — printable values are read back
* `Json.parse?_print` — the whole of a printed value
-/

namespace CodeGraph.Json

variable {v : Json} {vs : List Json} {m : Option String × Json} {ms : List (Option String × Json)}
  {key : String} {level n : Nat} {b : UInt8} {bs after rest : Bytes}

/-- Numbers are decimal forms, and texts and keys are given. -/
inductive IsPrintable : Json → Prop where
  | null : IsPrintable null
  | bool (b : Bool) : IsPrintable (bool b)
  | number (n : Nat) : IsPrintable (number (toString n))
  | text (s : String) : IsPrintable (text (some s))
  | array {items : List Json} (h : ∀ v ∈ items, IsPrintable v) : IsPrintable (array items)
  | object {members : List (Option String × Json)} (hkeys : ∀ m ∈ members, m.1.isSome)
      (h : ∀ m ∈ members, IsPrintable m.2) : IsPrintable (object members)

/-- The value is read back at every level, with as many steps as it has bytes. -/
def ReadsBack (v : Json) : Prop :=
  ∀ level n rest, (printAt level v).length ≤ n → EndsNumber rest →
    readValue n (printAt level v ++ rest) = some (v, rest)

/-! ### The bytes of the printer -/

theorem newLine_eq (level : Nat) :
    newLine level = ascii '\n' :: List.replicate (2 * level) 0x20 := by
  rw [newLine, ofString_of_all (by decide)]
  rfl

theorem printItems_nil (level : Nat) : printItems level [] = newLine level ++ [ascii ']'] := by
  rw [printItems, ofString_of_all (by decide)]
  rfl

theorem printItems_cons (level : Nat) (v : Json) (vs : List Json) : printItems level (v :: vs) =
    ascii ',' :: (newLine (level + 1) ++ (printAt (level + 1) v ++ printItems level vs)) := by
  rw [printItems, ofString_of_all (by decide), List.append_assoc, List.append_assoc]
  rfl

theorem printMembers_nil (level : Nat) :
    printMembers level [] = newLine level ++ [ascii '\x7d'] := by
  rw [printMembers, ofString_of_all (by decide)]
  rfl

theorem printMembers_cons (level : Nat) (m : Option String × Json)
    (ms : List (Option String × Json)) : printMembers level (m :: ms) =
    ascii ',' :: (newLine (level + 1) ++ (printMember level m ++ printMembers level ms)) := by
  rw [printMembers, ofString_of_all (by decide), List.append_assoc, List.append_assoc]
  rfl

theorem printMember_some (level : Nat) (key : String) (v : Json) : printMember level (some key, v) =
    printText key ++ (ascii ':' :: ascii ' ' :: printAt (level + 1) v) := by
  rw [printMember, ofString_of_all (by decide), List.append_assoc]
  rfl

theorem printAt_array_nil (level : Nat) : printAt level (array []) = [ascii '[', ascii ']'] := by
  rw [printAt, ofString_of_all (by decide)]
  rfl

theorem printAt_array_cons (level : Nat) (v : Json) (vs : List Json) :
    printAt level (array (v :: vs)) =
      ascii '[' :: (newLine (level + 1) ++ (printAt (level + 1) v ++ printItems level vs)) := by
  rw [printAt, ofString_of_all (by decide), List.append_assoc, List.append_assoc]
  rfl

theorem printAt_object_nil (level : Nat) :
    printAt level (object []) = [ascii '\x7b', ascii '\x7d'] := by
  rw [printAt, ofString_of_all (by decide)]
  rfl

theorem printAt_object_cons (level : Nat) (m : Option String × Json)
    (ms : List (Option String × Json)) : printAt level (object (m :: ms)) =
    ascii '\x7b' :: (newLine (level + 1) ++ (printMember level m ++ printMembers level ms)) := by
  rw [printAt, ofString_of_all (by decide), List.append_assoc, List.append_assoc]
  rfl

/-! ### Blanks -/

theorem nextByte_cons (h : isBlankByte b = false) (bs : Bytes) :
    nextByte (b :: bs) = some (b, bs) := by
  rw [nextByte, skipBlank, List.dropWhile_cons_of_neg (by simp [h])]

theorem nextByte_append {blanks : Bytes} (h : ∀ b ∈ blanks, isBlankByte b) (bs : Bytes) :
    nextByte (blanks ++ bs) = nextByte bs := by
  rw [nextByte, skipBlank, List.dropWhile_append_of_pos h, nextByte, skipBlank]

theorem isBlankByte_of_mem_newLine (h : b ∈ newLine level) : isBlankByte b := by
  rw [newLine_eq] at h
  rcases List.mem_cons.mp h with rfl | h
  · rfl
  · rw [List.eq_of_mem_replicate h]
    rfl

theorem nextByte_newLine (level : Nat) (bs : Bytes) :
    nextByte (newLine level ++ bs) = nextByte bs :=
  nextByte_append (fun _ => isBlankByte_of_mem_newLine) bs

theorem readValue_append {blanks : Bytes} (h : ∀ b ∈ blanks, isBlankByte b) (n : Nat) (bs : Bytes) :
    readValue n (blanks ++ bs) = readValue n bs := by
  cases n with
  | zero => rw [readValue, readValue]
  | succ n => rw [readValue, readValue, nextByte_append h]

theorem readItems_newLine (n level : Nat) (bs : Bytes) :
    readItems n (newLine level ++ bs) = readItems n bs := by
  cases n with
  | zero => rw [readItems, readItems]
  | succ n => rw [readItems, readItems, readValue_append fun _ => isBlankByte_of_mem_newLine]

theorem readMembers_newLine (n level : Nat) (bs : Bytes) :
    readMembers n (newLine level ++ bs) = readMembers n bs := by
  have hmember (k : Nat) : readMember k (newLine level ++ bs) = readMember k bs := by
    cases k with
    | zero => rw [readMember, readMember]
    | succ k => rw [readMember, readMember, nextByte_newLine]
  cases n with
  | zero => rw [readMembers, readMembers]
  | succ n => rw [readMembers, readMembers, hmember]

/-- The line feed after a value does not belong to it, even if it is a number. -/
theorem endsNumber_newLine (level : Nat) (bs : Bytes) : EndsNumber (newLine level ++ bs) := by
  rw [newLine_eq]
  rintro b ⟨⟩
  decide

theorem endsNumber_comma (bs : Bytes) : EndsNumber (ascii ',' :: bs) := by
  rintro b ⟨⟩
  decide

/-! ### Elements -/

/-- After the last element comes the end of the array, after another one a comma. -/
theorem endsNumber_printItems (level : Nat) (vs : List Json) (rest : Bytes) :
    EndsNumber (printItems level vs ++ rest) := by
  cases vs with
  | nil =>
    rw [printItems_nil, List.append_assoc]
    exact endsNumber_newLine level _
  | cons v vs =>
    rw [printItems_cons]
    exact endsNumber_comma _

theorem readItems_last (hvalue : readValue n bs = some (v, after))
    (hnext : nextByte after = some (ascii ']', rest)) :
    readItems (n + 1) bs = some ([v], rest) := by
  rw [readItems, hvalue]
  simp only [hnext]
  rfl

theorem readItems_more (hvalue : readValue n bs = some (v, ascii ',' :: after))
    (hmore : readItems n after = some (vs, rest)) :
    readItems (n + 1) bs = some (v :: vs, rest) := by
  rw [readItems, hvalue]
  simp only [nextByte_cons (rfl : isBlankByte (ascii ',') = false), hmore]
  rfl

/-- The elements of an array are read back if each of them is. -/
theorem readItems_print (hv : v.ReadsBack) (hvs : ∀ w ∈ vs, w.ReadsBack)
    (h : (printAt (level + 1) v).length + (printItems level vs).length ≤ n) (rest : Bytes) :
    readItems n (printAt (level + 1) v ++ (printItems level vs ++ rest)) =
      some (v :: vs, rest) := by
  -- every element has a comma or a bracket behind it, which pays for the step to the next one
  have hends := endsNumber_printItems level vs rest
  induction vs generalizing v n with
  | nil =>
    rw [printItems_nil] at h hends ⊢
    rw [List.length_append, List.length_singleton] at h
    obtain ⟨k, rfl⟩ : ∃ k, n = k + 1 := ⟨n - 1, by omega⟩
    refine readItems_last (hv _ k _ (by omega) hends) ?_
    rw [List.append_assoc, nextByte_newLine]
    exact nextByte_cons rfl rest
  | cons w vs ih =>
    obtain ⟨hw, hvs⟩ := List.forall_mem_cons.mp hvs
    rw [printItems_cons] at h hends ⊢
    rw [List.cons_append] at hends ⊢
    simp only [List.length_cons, List.length_append] at h
    obtain ⟨k, rfl⟩ : ∃ k, n = k + 1 := ⟨n - 1, by omega⟩
    refine readItems_more (hv _ k _ (by omega) hends) ?_
    rw [List.append_assoc, readItems_newLine, List.append_assoc]
    exact ih hw hvs (by omega) (endsNumber_printItems level vs rest)

/-! ### Members -/

theorem endsNumber_printMembers (level : Nat) (ms : List (Option String × Json)) (rest : Bytes) :
    EndsNumber (printMembers level ms ++ rest) := by
  cases ms with
  | nil =>
    rw [printMembers_nil, List.append_assoc]
    exact endsNumber_newLine level _
  | cons m ms =>
    rw [printMembers_cons]
    exact endsNumber_comma _

theorem readMembers_last (hmember : readMember n bs = some (m, after))
    (hnext : nextByte after = some (ascii '\x7d', rest)) :
    readMembers (n + 1) bs = some ([m], rest) := by
  rw [readMembers, hmember]
  simp only [hnext]
  rfl

theorem readMembers_more (hmember : readMember n bs = some (m, ascii ',' :: after))
    (hmore : readMembers n after = some (ms, rest)) :
    readMembers (n + 1) bs = some (m :: ms, rest) := by
  rw [readMembers, hmember]
  simp only [nextByte_cons (rfl : isBlankByte (ascii ',') = false), hmore]
  rfl

/-- A key and a colon are followed by the value of the member. -/
theorem readMember_eq (hkey : readText bs = some (some key, ascii ':' :: after))
    (hvalue : readValue n after = some (v, rest)) :
    readMember (n + 1) (ascii '"' :: bs) = some ((some key, v), rest) := by
  rw [readMember, nextByte_cons rfl]
  simp only [beq_self_eq_true, if_true, hkey, hvalue,
    nextByte_cons (rfl : isBlankByte (ascii ':') = false)]
  rfl

/-- A member is read back if its value is. -/
theorem readMember_print (hv : v.ReadsBack)
    (h : (printMember level (some key, v)).length ≤ n) (hrest : EndsNumber rest) :
    readMember n (printMember level (some key, v) ++ rest) = some ((some key, v), rest) := by
  rw [printMember_some] at h ⊢
  simp only [List.length_append, List.length_cons] at h
  obtain ⟨k, rfl⟩ : ∃ k, n = k + 1 := ⟨n - 1, by omega⟩
  obtain ⟨body, hbody, hkey⟩ := readText_printText key
    (ascii ':' :: ascii ' ' :: printAt (level + 1) v ++ rest)
  rw [List.append_assoc, hbody]
  refine readMember_eq hkey ?_
  have hspace : ∀ b ∈ [ascii ' '], isBlankByte b := List.forall_mem_singleton.mpr rfl
  exact (readValue_append hspace k _).trans (hv _ k _ (by omega) hrest)

/-- The members of an object are read back if their values are. -/
theorem readMembers_print (hv : v.ReadsBack) (hkeys : ∀ m ∈ ms, m.1.isSome)
    (hms : ∀ m ∈ ms, m.2.ReadsBack)
    (h : (printMember level (some key, v)).length + (printMembers level ms).length ≤ n)
    (rest : Bytes) :
    readMembers n (printMember level (some key, v) ++ (printMembers level ms ++ rest)) =
      some ((some key, v) :: ms, rest) := by
  -- as with elements, the comma or brace behind a member pays for the next step
  have hends := endsNumber_printMembers level ms rest
  induction ms generalizing key v n with
  | nil =>
    rw [printMembers_nil] at h hends ⊢
    rw [List.length_append, List.length_singleton] at h
    obtain ⟨k, rfl⟩ : ∃ k, n = k + 1 := ⟨n - 1, by omega⟩
    refine readMembers_last (readMember_print hv (by omega) hends) ?_
    rw [List.append_assoc, nextByte_newLine]
    exact nextByte_cons rfl rest
  | cons m ms ih =>
    obtain ⟨hm, hms'⟩ := List.forall_mem_cons.mp hms
    obtain ⟨hkey, hkeys'⟩ := List.forall_mem_cons.mp hkeys
    obtain ⟨_ | nextKey, w⟩ := m
    · cases hkey
    rw [printMembers_cons] at h hends ⊢
    rw [List.cons_append] at hends ⊢
    simp only [List.length_cons, List.length_append] at h
    obtain ⟨k, rfl⟩ : ∃ k, n = k + 1 := ⟨n - 1, by omega⟩
    refine readMembers_more (readMember_print hv (by omega) hends) ?_
    rw [List.append_assoc, readMembers_newLine, List.append_assoc]
    exact ih hm hkeys' hms' (by omega) (endsNumber_printMembers level ms rest)

/-! ### The first byte of a value -/

theorem isBlankByte_of_isDigitByte (h : isDigitByte b) : isBlankByte b = false := by
  have hne (c : Char) (hc : isDigitByte (ascii c) = false) : (b == ascii c) = false :=
    beq_eq_false_iff_ne.mpr (ne_ascii_of_isDigitByte h hc)
  simp only [isBlankByte, hne ' ' rfl, hne '\t' rfl, hne '\n' rfl, hne '\r' rfl, Bool.or_false]

/-- A digit begins a number and nothing else. -/
theorem readValue_digit (h : isDigitByte b) (n : Nat) (bs : Bytes) :
    readValue (n + 1) (b :: bs) = readNumber (b :: bs) := by
  have hne (c : Char) (hc : isDigitByte (ascii c) = false) : (b == ascii c) = false :=
    beq_eq_false_iff_ne.mpr (ne_ascii_of_isDigitByte h hc)
  rw [readValue, nextByte_cons (isBlankByte_of_isDigitByte h)]
  simp only [hne '"' rfl, hne '[' rfl, hne '\x7b' rfl, hne 'n' rfl, hne 't' rfl, hne 'f' rfl,
    Bool.false_eq_true, if_false]

/-- What opens an array is followed by its elements, unless by its end. -/
theorem readValue_openArray (h : nextByte bs = some (b, after)) (hb : b ≠ ascii ']') (n : Nat) :
    readValue (n + 1) (ascii '[' :: bs) =
      (readItems n bs).map fun (vs, rest) => (array vs, rest) := by
  rw [readValue, nextByte_cons rfl]
  simp only [h, beq_eq_false_iff_ne.mpr hb, beq_self_eq_true, if_true, Bool.false_eq_true,
    if_false]
  rfl

/-- What opens an object is followed by its members, unless by its end. -/
theorem readValue_openObject (h : nextByte bs = some (b, after)) (hb : b ≠ ascii '\x7d')
    (n : Nat) : readValue (n + 1) (ascii '\x7b' :: bs) =
      (readMembers n bs).map fun (ms, rest) => (object ms, rest) := by
  rw [readValue, nextByte_cons rfl]
  simp only [h, beq_eq_false_iff_ne.mpr hb, beq_self_eq_true, if_true, Bool.false_eq_true,
    if_false]
  rfl

theorem ofString_null : Bytes.ofString "null" = ascii 'n' :: "ull".toList.map ascii :=
  ofString_of_all (by decide)

theorem ofString_true : Bytes.ofString "true" = ascii 't' :: "rue".toList.map ascii :=
  ofString_of_all (by decide)

theorem ofString_false : Bytes.ofString "false" = ascii 'f' :: "alse".toList.map ascii :=
  ofString_of_all (by decide)

/-- A printed value begins with a byte that is no blank and does not end an array. -/
theorem IsPrintable.exists_first (h : v.IsPrintable) (level : Nat) : ∃ b bs,
    printAt level v = b :: bs ∧ isBlankByte b = false ∧ b ≠ ascii ']' := by
  cases h with
  | null => exact ⟨_, _, ofString_null, rfl, by decide⟩
  | bool b =>
    cases b with
    | false => exact ⟨_, _, ofString_false, rfl, by decide⟩
    | true => exact ⟨_, _, ofString_true, rfl, by decide⟩
  | number m =>
    obtain ⟨b, bs, hbs, hb⟩ := exists_digit_cons m
    exact ⟨b, bs, hbs, isBlankByte_of_isDigitByte hb, ne_ascii_of_isDigitByte hb rfl⟩
  | text s => exact ⟨_, _, printText_eq s, rfl, by decide⟩
  | @array items _ =>
    cases items with
    | nil => exact ⟨_, _, printAt_array_nil level, rfl, by decide⟩
    | cons v vs => exact ⟨_, _, printAt_array_cons level v vs, rfl, by decide⟩
  | @object members _ _ =>
    cases members with
    | nil => exact ⟨_, _, printAt_object_nil level, rfl, by decide⟩
    | cons m ms => exact ⟨_, _, printAt_object_cons level m ms, rfl, by decide⟩

/-! ### Values -/

/-- A word is read back if its first letter stands for it. -/
theorem readsBack_of_word {word : String} {first : UInt8} {more : Bytes}
    (hprint : ∀ level, printAt level v = Bytes.ofString word)
    (hword : Bytes.ofString word = first :: more)
    (hread : ∀ n bs, readValue (n + 1) (first :: bs) = readWord word v (first :: bs)) :
    v.ReadsBack := by
  intro level n rest hn _
  have hwhole : readWord word v (Bytes.ofString word ++ rest) = some (v, rest) := by
    simp [readWord]
  rw [hprint] at hn ⊢
  rw [hword, List.length_cons] at hn
  obtain ⟨k, rfl⟩ : ∃ k, n = k + 1 := ⟨n - 1, by omega⟩
  rw [hword, List.cons_append] at hwhole ⊢
  rw [hread, hwhole]

theorem readsBack_number (m : Nat) : (number (toString m)).ReadsBack := by
  intro level n rest hn hrest
  obtain ⟨b, bs, hbs, hb⟩ := exists_digit_cons m
  have hread := readNumber_toString m hrest
  rw [printAt] at hn ⊢
  rw [hbs, List.length_cons] at hn
  obtain ⟨k, rfl⟩ : ∃ k, n = k + 1 := ⟨n - 1, by omega⟩
  rw [hbs, List.cons_append] at hread ⊢
  rw [readValue_digit hb, hread]

theorem readsBack_text (s : String) : (text (some s)).ReadsBack := by
  intro level n rest hn _
  obtain ⟨body, hbody, hread⟩ := readText_printText s rest
  rw [printAt, Option.getD_some] at hn ⊢
  rw [printText_eq, List.length_cons] at hn
  obtain ⟨k, rfl⟩ : ∃ k, n = k + 1 := ⟨n - 1, by omega⟩
  rw [hbody, readValue, nextByte_cons rfl]
  simp only [beq_self_eq_true, if_true, hread]
  rfl

theorem readsBack_array (h : ∀ v ∈ vs, v.IsPrintable) (hread : ∀ v ∈ vs, v.ReadsBack) :
    (array vs).ReadsBack := by
  intro level n rest hn hrest
  cases vs with
  | nil =>
    rw [printAt_array_nil] at hn ⊢
    rw [List.length_cons] at hn
    obtain ⟨k, rfl⟩ : ∃ k, n = k + 1 := ⟨n - 1, by omega⟩
    rw [List.cons_append, readValue, nextByte_cons rfl]
    rfl
  | cons v vs =>
    obtain ⟨hv, hvs⟩ := List.forall_mem_cons.mp hread
    rw [printAt_array_cons] at hn ⊢
    simp only [List.length_cons, List.length_append] at hn
    obtain ⟨k, rfl⟩ : ∃ k, n = k + 1 := ⟨n - 1, by omega⟩
    have hlength : (printAt (level + 1) v).length + (printItems level vs).length ≤ k := by omega
    have hitems := readItems_print hv hvs hlength rest
    -- the first element shows that the array does not end at once
    obtain ⟨b, bs, hfirst, hblank, hclose⟩ := (h v List.mem_cons_self).exists_first (level + 1)
    have hnext : nextByte (newLine (level + 1) ++ (printAt (level + 1) v ++
        (printItems level vs ++ rest))) = some (b, bs ++ (printItems level vs ++ rest)) := by
      rw [nextByte_newLine, hfirst]
      exact nextByte_cons hblank _
    rw [List.cons_append, List.append_assoc, List.append_assoc,
      readValue_openArray hnext hclose, readItems_newLine, hitems]
    rfl

theorem readsBack_object (hkeys : ∀ m ∈ ms, m.1.isSome) (hread : ∀ m ∈ ms, m.2.ReadsBack) :
    (object ms).ReadsBack := by
  intro level n rest hn hrest
  cases ms with
  | nil =>
    rw [printAt_object_nil] at hn ⊢
    rw [List.length_cons] at hn
    obtain ⟨k, rfl⟩ : ∃ k, n = k + 1 := ⟨n - 1, by omega⟩
    rw [List.cons_append, readValue, nextByte_cons rfl]
    rfl
  | cons m ms =>
    obtain ⟨hm, hread'⟩ := List.forall_mem_cons.mp hread
    obtain ⟨hkey, hkeys'⟩ := List.forall_mem_cons.mp hkeys
    obtain ⟨_ | key, v⟩ := m
    · cases hkey
    rw [printAt_object_cons] at hn ⊢
    simp only [List.length_cons, List.length_append] at hn
    obtain ⟨k, rfl⟩ : ∃ k, n = k + 1 := ⟨n - 1, by omega⟩
    have hlength :
        (printMember level (some key, v)).length + (printMembers level ms).length ≤ k := by omega
    have hmembers := readMembers_print hm hkeys' hread' hlength rest
    -- the quote of the first key shows that the object does not end at once
    have hnext : ∃ bs, nextByte (newLine (level + 1) ++ (printMember level (some key, v) ++
        (printMembers level ms ++ rest))) = some (ascii '"', bs) := by
      rw [nextByte_newLine, printMember_some, printText_eq]
      exact ⟨_, nextByte_cons rfl _⟩
    obtain ⟨bs, hnext⟩ := hnext
    rw [List.cons_append, List.append_assoc, List.append_assoc,
      readValue_openObject hnext (by decide), readMembers_newLine, hmembers]
    rfl

/-- Printable values are read back. -/
theorem IsPrintable.readsBack (h : v.IsPrintable) : v.ReadsBack := by
  induction h with
  | null => exact readsBack_of_word (fun _ => rfl) ofString_null fun _ _ => rfl
  | bool b =>
    cases b with
    | false => exact readsBack_of_word (fun _ => rfl) ofString_false fun _ _ => rfl
    | true => exact readsBack_of_word (fun _ => rfl) ofString_true fun _ _ => rfl
  | number m => exact readsBack_number m
  | text s => exact readsBack_text s
  | array h ih => exact readsBack_array h ih
  | object hkeys h ih => exact readsBack_object hkeys ih

/-- The whole of a printed value is read back. -/
theorem parse?_print (h : v.IsPrintable) : parse? v.print = some v := by
  have hread : readValue (v.print.length + 1) (v.print ++ []) = some (v, []) :=
    h.readsBack 0 _ [] (Nat.le_succ _) (by simp [EndsNumber])
  rw [List.append_nil] at hread
  rw [parse?, hread]
  rfl

end CodeGraph.Json
