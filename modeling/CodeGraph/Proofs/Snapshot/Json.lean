import CodeGraph.Proofs.Json.Value

/-!
# Snapshots as JSON values

A snapshot is read back from the value that stands for it, and this value can be printed. Each part
of a snapshot is represented in this sense by a value of its own, and a record by those of its
fields.

## Main definitions

* `Json.Represents` — a value stands for something that is read back from it

## Main results

* `Json.slots?_record` — the fields of a record are found under their keys
* `Snapshot.represents` — a snapshot is represented by its value
* `Snapshot.ofJson?_parse?_print` — a snapshot is read back from its printed value
-/

namespace CodeGraph

namespace Json

variable {α β γ : Type} {v : Json} {read : Json → Option α} {a : α}

/-- The value can be printed and is read as `a`. -/
structure Represents (read : Json → Option α) (v : Json) (a : α) : Prop where
  printable : v.IsPrintable
  read : read v = some a

/-! ### Lists and records -/

theorem mapM_map_eq_some {xs : List α} {f : α → β} {g : β → Option γ} {h : α → γ}
    (hfg : ∀ x ∈ xs, g (f x) = some (h x)) : (xs.map f).mapM g = some (xs.map h) := by
  induction xs with
  | nil => rfl
  | cons x xs ih =>
    obtain ⟨hx, hxs⟩ := List.forall_mem_cons.mp hfg
    simp [hx, ih hxs]

theorem represents_list {f : α → Json} (h : ∀ a, Represents read (f a) a) (xs : List α) :
    Represents (list? read) (array (xs.map f)) xs where
  printable := by
    refine .array fun v hv => ?_
    obtain ⟨a, -, rfl⟩ := List.mem_map.mp hv
    exact (h a).printable
  read := by
    rw [list?, mapM_map_eq_some (h := id) fun a _ => (h a).read, List.map_id]

theorem filter_key {fields : List (String × Json)} {key : String}
    (hkeys : (fields.map (·.1)).Nodup) (h : (key, v) ∈ fields) :
    fields.filter (·.1 == key) = [(key, v)] := by
  induction fields with
  | nil => cases h
  | cons field fields ih =>
    rw [List.map_cons, List.nodup_cons] at hkeys
    rcases List.mem_cons.mp h with rfl | h
    · have hothers : fields.filter (·.1 == key) = [] := by
        rw [List.filter_eq_nil_iff]
        intro other hother heq
        exact hkeys.1 (List.mem_map.mpr ⟨other, hother, eq_of_beq heq⟩)
      rw [List.filter_cons_of_pos (by simp), hothers]
    · have hne : field.1 ≠ key := by
        rintro rfl
        exact hkeys.1 (List.mem_map.mpr ⟨_, h, rfl⟩)
      rw [List.filter_cons_of_neg (by simpa using hne), ih hkeys.2 h]

theorem record_eq (fields : List (String × Json)) :
    record fields = object (fields.map fun field => (some field.1, field.2)) :=
  rfl

/-- The fields of a record are found under their keys, if these are distinct. -/
theorem slots?_record {fields : List (String × Json)} {keys : List String}
    (h : fields.map (·.1) = keys) (hkeys : keys.Nodup) :
    (record fields).slots? keys = some (fields.map (some ·.2)) := by
  subst h
  have hgiven : (fields.map fun field => (some field.1, field.2)).any (·.1.isNone) = false := by
    simp
  rw [record_eq, slots?, hgiven, if_neg Bool.false_ne_true]
  refine mapM_map_eq_some fun field hfield => ?_
  have hfilter : fields.filter ((·.1 == some field.1) ∘ fun other => (some other.1, other.2)) =
      [(field.1, field.2)] := by
    rw [← filter_key hkeys hfield]
    exact List.filter_congr fun other _ => by simp
  rw [member?, List.filter_map, hfilter]
  rfl

theorem printable_record {fields : List (String × Json)}
    (h : ∀ field ∈ fields, field.2.IsPrintable) : (record fields).IsPrintable := by
  refine .object (fun m hm => ?_) fun m hm => ?_
  · obtain ⟨field, -, rfl⟩ := List.mem_map.mp hm
    rfl
  · obtain ⟨field, hfield, rfl⟩ := List.mem_map.mp hm
    exact h field hfield

/-! ### Words and texts -/

theorem represents_word (n : UInt32) : Represents word? (ofWord n) n :=
  ⟨.number n.toNat, word?_ofWord n⟩

theorem represents_text (s : String) : Represents text? (ofString s) s :=
  ⟨.text s, rfl⟩

end Json

open Json (Represents represents_word represents_text represents_list required defaulting)

/-! ### The parts of a snapshot -/

theorem EntityId.represents (id : EntityId) : Represents EntityId.ofJson? id.toJson id where
  printable := (represents_word id.value).printable
  read := by
    rw [EntityId.ofJson?, EntityId.toJson, (represents_word id.value).read]
    rfl

/-- A kind is its name, from which its words are made again. -/
theorem Kind.represents (k : Kind) : Represents Kind.ofJson? (Json.ofString k.name) k where
  printable := .text k.name
  read := congrArg some (Kind.ext rfl)

theorem TokenCategory.represents (c : TokenCategory) :
    Represents TokenCategory.ofJson? (Json.ofString c.name) c where
  printable := .text c.name
  read := by cases c <;> decide

theorem represents_entity (o : Option EntityId) :
    Represents entityOfJson? (entityToJson o) o := by
  cases o with
  | none => exact ⟨.null, rfl⟩
  | some id => exact ⟨id.represents.printable, congrArg (Option.map some) id.represents.read⟩

theorem Entity.represents (e : Entity) : Represents Entity.ofJson? e.toJson e where
  printable := by
    refine Json.printable_record ?_
    simp only [List.forall_mem_cons]
    exact ⟨e.id.represents.printable, .text e.name, .text e.longname, .text e.kind.name,
      (represents_list represents_text e.types).printable, by simp⟩
  read := by
    have hslots : e.toJson.slots? ["id", "name", "longname", "kind", "types"] = _ :=
      Json.slots?_record rfl (by decide)
    rw [Entity.ofJson?, hslots]
    simp [required, defaulting, e.id.represents.read, (represents_text _).read,
      e.kind.represents.read, (represents_list represents_text e.types).read]

theorem Reference.represents (r : Reference) : Represents Reference.ofJson? r.toJson r where
  printable := by
    refine Json.printable_record ?_
    simp only [List.forall_mem_cons]
    exact ⟨r.source.represents.printable, r.target.represents.printable, .text r.kind.name,
      r.file.represents.printable, (represents_word r.position.line).printable,
      (represents_word r.position.column).printable, by simp⟩
  read := by
    have hslots : r.toJson.slots? ["source", "target", "kind", "file", "line", "column"] = _ :=
      Json.slots?_record rfl (by decide)
    rw [Reference.ofJson?, hslots]
    simp [required, r.source.represents.read, r.target.represents.read, r.kind.represents.read,
      r.file.represents.read, (represents_word _).read]

theorem Token.represents (t : Token) : Represents Token.ofJson? t.toJson t where
  printable := by
    refine Json.printable_record ?_
    simp only [List.forall_mem_cons]
    exact ⟨t.category.represents.printable, .text t.text, (represents_word t.first.line).printable,
      (represents_word t.first.column).printable, (represents_word t.last.line).printable,
      (represents_word t.last.column).printable, (represents_entity t.entity).printable, by simp⟩
  read := by
    have hslots : t.toJson.slots? ["category", "text", "line_begin", "column_begin", "line_end",
        "column_end", "entity"] = _ :=
      Json.slots?_record rfl (by decide)
    rw [Token.ofJson?, hslots]
    simp [required, defaulting, t.category.represents.read, (represents_text _).read,
      (represents_word _).read, (represents_entity t.entity).read]

theorem FileTokens.represents (f : FileTokens) : Represents FileTokens.ofJson? f.toJson f where
  printable := by
    refine Json.printable_record ?_
    simp only [List.forall_mem_cons]
    exact ⟨f.file.represents.printable, (represents_list Token.represents f.tokens).printable,
      by simp⟩
  read := by
    have hslots : f.toJson.slots? ["file", "tokens"] = _ := Json.slots?_record rfl (by decide)
    rw [FileTokens.ofJson?, hslots]
    simp [required, f.file.represents.read, (represents_list Token.represents f.tokens).read]

namespace Snapshot

/-- A snapshot is represented by its value. -/
theorem represents (s : Snapshot) : Represents ofJson? s.toJson s where
  printable := by
    refine Json.printable_record ?_
    simp only [List.forall_mem_cons]
    exact ⟨.text s.name, (represents_list represents_text s.languages).printable,
      .text s.unresolved, (represents_list Entity.represents s.entities).printable,
      (represents_list Reference.represents s.references).printable,
      (represents_list FileTokens.represents s.lexemes).printable, by simp⟩
  read := by
    have hslots : s.toJson.slots? ["name", "languages", "unresolved", "entities", "references",
        "lexemes"] = _ :=
      Json.slots?_record rfl (by decide)
    rw [ofJson?, hslots]
    simp [required, defaulting, (represents_text _).read,
      (represents_list represents_text s.languages).read,
      (represents_list Entity.represents s.entities).read,
      (represents_list Reference.represents s.references).read,
      (represents_list FileTokens.represents s.lexemes).read]

/-- A snapshot is read back from its printed value. -/
theorem ofJson?_parse?_print (s : Snapshot) :
    (Json.parse? s.toJson.print).bind ofJson? = some s := by
  rw [Json.parse?_print s.represents.printable]
  exact s.represents.read

end Snapshot

end CodeGraph
