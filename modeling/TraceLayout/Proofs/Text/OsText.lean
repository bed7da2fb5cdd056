import TraceLayout.Proofs.Text.ByteOrder
import TraceLayout.Text.Quoted

/-! Texts of the operating system that are UTF-8. Their bytes are those of one text, which is found
in them again, and they are shown as this text is. -/
namespace TraceLayout
open String

namespace Text

theorem bytes_inj {text other : String} : bytes text = bytes other ↔ text = other := by
  rw [bytes, bytes, Array.toList_inj, ← ByteArray.ext_iff]
  exact toByteArray_inj

@[simp] theorem bytes_empty : bytes "" = [] := rfl

theorem bytes_append (front back : String) : bytes (front ++ back) = bytes front ++ bytes back := by
  simp [bytes_eq_flatMap]

theorem le_of_mem_trail {code count : Nat} {byte : UInt8} (member : byte ∈ trail code count) :
    128 ≤ byte.toNat := by
  induction count with
  | zero => contradiction
  | succ count ih =>
    rcases List.mem_cons.mp member with rfl | later
    · rw [UInt8.toNat_ofNat_of_lt' (by simp only [UInt8.size]; omega)]
      omega
    · exact ih later

theorem le_lead {code : Nat} (long : 128 ≤ code) : 128 ≤ lead code := by
  unfold lead trailing
  split_ifs <;> simp only [mark] <;> omega

/-- A byte below 128 is all that there is of its character. -/
theorem mem_utf8EncodeChar_iff {c d : Char} (ascii : c.toNat < 128) :
    c.toUInt8 ∈ utf8EncodeChar d ↔ c = d := by
  have own : c.toUInt8.toNat = c.toNat := by
    rw [Char.toUInt8, UInt32.toNat_toUInt8]
    exact Nat.mod_eq_of_lt (by rw [Char.toNat] at ascii; omega)
  have bound : d.val.toNat < 0x110000 := by
    rcases d.valid with low | high <;> omega
  rw [utf8EncodeChar_eq, List.mem_cons]
  constructor
  · rintro (first | later)
    · have value := congrArg UInt8.toNat first
      rw [own, UInt8.toNat_ofNat_of_lt' (lead_lt bound)] at value
      have short : d.val.toNat < 128 := by
        by_contra long
        have := le_lead (Nat.not_lt.mp long)
        omega
      apply Char.toNat_inj.mp
      rw [value, lead, trailing, if_pos (by omega)]
      simp [mark]
    · have := le_of_mem_trail later
      omega
  · rintro rfl
    left
    apply UInt8.toNat_inj.mp
    rw [own, UInt8.toNat_ofNat_of_lt' (lead_lt bound), lead, trailing,
      if_pos (show c.val.toNat ≤ 127 from Nat.le_of_lt_succ ascii)]
    simp [mark]

/-- A character of one byte stands in a text where its byte does. -/
theorem mem_bytes_iff {c : Char} (ascii : c.toNat < 128) {text : String} :
    c.toUInt8 ∈ bytes text ↔ c ∈ text.toList := by
  simp [bytes_eq_flatMap, mem_utf8EncodeChar_iff ascii]

end Text

namespace OsText

@[simp] theorem bytes_ofString (text : String) : (ofString text).bytes = Text.bytes text := rfl

@[simp] theorem bytes_append (front back : OsText) :
    (front ++ back).bytes = front.bytes ++ back.bytes := rfl

theorem empty_append (os : OsText) : ofString "" ++ os = os := rfl

theorem append_empty (os : OsText) : os ++ ofString "" = os := by
  ext1
  simp

theorem append_assoc (front middle back : OsText) :
    front ++ middle ++ back = front ++ (middle ++ back) := by
  ext1
  simp

theorem ofString_inj {text other : String} : ofString text = ofString other ↔ text = other := by
  rw [ofString, ofString, mk.injEq, Text.bytes_inj]

theorem text?_eq_some_iff {os : OsText} {text : String} :
    os.text? = some text ↔ os = ofString text := by
  obtain ⟨bytes⟩ := os
  rw [text?, Text.fromUTF8?_eq_some_iff, ofString, mk.injEq, Text.bytes, String.toUTF8,
    ByteArray.ext_iff, ← Array.toList_inj, List.toList_data_toByteArray]

@[simp] theorem text?_ofString (text : String) : (ofString text).text? = some text :=
  text?_eq_some_iff.mpr rfl

theorem firstChar?_utf8EncodeChar_append (c : Char) (rest : List UInt8) :
    firstChar? (utf8EncodeChar c ++ rest) = some c := by
  have short : (utf8EncodeChar c).length ≤ 4 := by
    rw [length_utf8EncodeChar]
    exact c.utf8Size_le_four
  rw [firstChar?, List.take_append, List.take_of_length_le short, List.toByteArray_append]
  exact ByteArray.utf8DecodeChar?_utf8EncodeChar_append

theorem piecesAfter_append {taken : Nat} {front : List UInt8} (length : front.length = taken)
    (rest : List UInt8) : piecesAfter taken (front ++ rest) = piecesAfter 0 rest := by
  induction front generalizing taken with
  | nil =>
    subst length
    rfl
  | cons byte front ih =>
    subst length
    exact ih rfl

/-- Characters are taken out of the bytes that they were put into. -/
theorem pieces_ofString (text : String) : (ofString text).pieces = text.toList.map .char := by
  rw [pieces, ofString, Text.bytes_eq_flatMap]
  induction text.toList with
  | nil => rfl
  | cons c cs ih =>
    have first := firstChar?_utf8EncodeChar_append c (cs.flatMap utf8EncodeChar)
    have size := length_utf8EncodeChar c
    rw [List.flatMap_cons, List.map_cons, ← ih]
    cases encoded : utf8EncodeChar c with
    | nil =>
      have := c.utf8Size_pos
      simp [encoded] at size
      omega
    | cons byte more =>
      rw [encoded] at first size
      rw [List.cons_append] at first ⊢
      simp only [piecesAfter, first]
      rw [piecesAfter_append (by simp at size; omega)]

/-- A text is shown as it is. -/
theorem shown_ofString (text : String) : (ofString text).shown = text := by
  simp [shown, pieces_ofString, Function.comp_def]

theorem quoted_ofString (text : String) : (ofString text).quoted = Text.quoted text := by
  simp [quoted, Text.quoted, pieces_ofString, List.flatMap_map]

end OsText
end TraceLayout
