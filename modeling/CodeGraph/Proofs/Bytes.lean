import CodeGraph.Bytes

/-!
# Texts as bytes

The bytes of a text are read back as this text, and no other bytes are read as a text.

## Main results

* `Bytes.toString?_eq_some_iff` — a text is read from its bytes and from no others
-/

namespace CodeGraph.Bytes

variable {bs : Bytes} {s : String}

theorem toList_loop (b : ByteArray) (i : Nat) (before : List UInt8) :
    ByteArray.toList.loop b i before = before.reverse ++ b.data.toList.drop i := by
  fun_induction ByteArray.toList.loop b i before with
  | case1 i before hi ih =>
    have hi' : i < b.data.toList.length := by rwa [Array.length_toList]
    have hget : b.get! i = b.data.toList[i] := by
      rw [ByteArray.get!, getElem!_pos b.data i hi, Array.getElem_toList]
    rw [ih, hget, List.reverse_cons, List.append_assoc, List.singleton_append,
      List.drop_eq_getElem_cons hi']
  | case2 i before hi =>
    have hend : b.data.toList.length ≤ i := by
      rw [Array.length_toList]
      exact Nat.le_of_not_lt hi
    rw [List.drop_eq_nil_of_le hend, List.append_nil]

theorem toList_eq (b : ByteArray) : b.toList = b.data.toList := by
  rw [ByteArray.toList, toList_loop]
  rfl

theorem toByteArray_toList (b : ByteArray) : b.toList.toByteArray = b := by
  rw [toList_eq]
  apply ByteArray.ext
  rw [List.data_toByteArray, Array.toArray_toList]

theorem length_ofString (s : String) : (ofString s).length = s.utf8ByteSize := by
  rw [ofString, toList_eq, Array.length_toList]
  rfl

theorem ofString_empty : ofString "" = [] := by
  rw [ofString, toList_eq]
  rfl

/-- The bytes of a text are those of its characters, one after another. -/
theorem ofString_ofList (cs : List Char) :
    ofString (String.ofList cs) = cs.flatMap String.utf8EncodeChar := by
  rw [ofString, toList_eq, String.toByteArray_ofList, List.utf8Encode, List.data_toByteArray]

theorem ofString_append (s t : String) : ofString (s ++ t) = ofString s ++ ofString t := by
  rw [ofString, String.toByteArray_append, toList_eq, ByteArray.data_append, Array.toList_append,
    ofString, ofString, toList_eq, toList_eq]

/-- A text is read from its bytes and from no others. -/
theorem toString?_eq_some_iff : toString? bs = some s ↔ bs = ofString s := by
  rw [toString?, String.fromUTF8?]
  constructor
  · intro h
    split at h
    next hvalid =>
      cases h
      rw [ofString, toList_eq]
      exact (congrArg Array.toList List.data_toByteArray).symm
    · cases h
  · rintro rfl
    rw [ofString, toByteArray_toList, dif_pos s.isValidUTF8]
    rfl

end CodeGraph.Bytes
