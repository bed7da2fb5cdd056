import Mathlib.Algebra.Order.Ring.Nat
import Mathlib.Data.List.Lex
import Mathlib.Tactic.SplitIfs
import TraceLayout.Text.OsText

/-! The order of texts. Texts are compared character by character, and that is the order of their
UTF-8 bytes: of two characters the lesser has the lesser byte where their bytes first differ. -/
namespace TraceLayout.Text
open String

theorem bytes_eq_flatMap (text : String) : bytes text = text.toList.flatMap utf8EncodeChar := by
  have encoded := @toByteArray_ofList text.toList
  rw [ofList_toList] at encoded
  rw [bytes, toUTF8, encoded, List.utf8Encode, List.toList_data_toByteArray]

/-- The bytes of a text, and no others, are read as that text. -/
theorem fromUTF8?_eq_some_iff {content : ByteArray} {text : String} :
    String.fromUTF8? content = some text ↔ content = text.toUTF8 := by
  constructor
  · intro read
    unfold String.fromUTF8? at read
    split at read
    · exact congrArg String.toUTF8 (Option.some.inj read)
    · contradiction
  · rintro rfl
    exact dif_pos text.isValidUTF8

/-- The number of bytes of a code point after its first one. -/
def trailing (code : Nat) : Nat :=
  if code ≤ 0x7f then 0 else if code ≤ 0x7ff then 1 else if code ≤ 0xffff then 2 else 3

/-- The bytes of a code point after its first one. Each holds a digit to the base 64. -/
def trail (code : Nat) : Nat → List UInt8
  | 0 => []
  | count + 1 => UInt8.ofNat (code / 64 ^ count % 64 + 128) :: trail code count

/-- Where the first bytes of the code points begin that have some number of bytes after it. -/
def mark : Nat → Nat
  | 0 => 0
  | 1 => 192
  | 2 => 224
  | 3 => 240
  | _ => 248

/-- The first byte of a code point. It holds the digits that are left. -/
def lead (code : Nat) : Nat := code / 64 ^ trailing code + mark (trailing code)

theorem utf8EncodeChar_eq (c : Char) :
    utf8EncodeChar c =
      UInt8.ofNat (lead c.val.toNat) :: trail c.val.toNat (trailing c.val.toNat) := by
  have bound : c.val.toNat < 0x110000 := by
    rcases c.valid with low | high <;> omega
  unfold utf8EncodeChar lead trailing
  generalize c.val.toNat = code at bound
  simp only []
  split_ifs with one two three
  · simp [trail, mark]
  · simp [trail, mark, Nat.mod_eq_of_lt (show code / 64 < 32 by omega)]
  · simp [trail, mark, Nat.mod_eq_of_lt (show code / 4096 < 16 by omega)]
  · simp [trail, mark, Nat.mod_eq_of_lt (show code / 262144 < 8 by omega)]

theorem trailing_mono {low high : Nat} (below : low ≤ high) : trailing low ≤ trailing high := by
  unfold trailing
  split_ifs <;> omega

theorem lead_lt_mark {code : Nat} (bound : code < 0x110000) :
    lead code < mark (trailing code + 1) := by
  unfold lead trailing
  split_ifs <;> simp only [mark] <;> omega

/-- First bytes with more bytes after them begin where those with fewer end. -/
theorem mark_le_mark {low high : Nat} (fewer : trailing low < trailing high) :
    mark (trailing low + 1) ≤ mark (trailing high) := by
  revert fewer
  unfold trailing
  split_ifs <;> simp [mark]

theorem lead_lt {code : Nat} (bound : code < 0x110000) : lead code < 256 := by
  have below := lead_lt_mark bound
  have last : mark (trailing code + 1) ≤ 248 := by
    unfold trailing
    split_ifs <;> simp [mark]
  omega

/-- Code points that agree up to some last digits are ordered by the bytes of those. -/
theorem trail_append_lt {low high count : Nat} (below : low < high)
    (same : low / 64 ^ count = high / 64 ^ count) (rest rest' : List UInt8) :
    trail low count ++ rest < trail high count ++ rest' := by
  induction count with
  | zero =>
    rw [Nat.pow_zero, Nat.div_one, Nat.div_one] at same
    exact absurd same below.ne
  | succ count ih =>
    rw [Nat.pow_succ, ← Nat.div_div_eq_div_mul, ← Nat.div_div_eq_div_mul] at same
    have ordered : low / 64 ^ count ≤ high / 64 ^ count := Nat.div_le_div_right below.le
    rw [trail, trail, List.cons_append, List.cons_append, List.cons_lt_cons_iff]
    rcases Nat.lt_or_eq_of_le ordered with less | equal
    · have digits : low / 64 ^ count % 64 < high / 64 ^ count % 64 := by omega
      have fits : high / 64 ^ count % 64 + 128 < UInt8.size := by simp only [UInt8.size]; omega
      exact .inl ((UInt8.ofNat_lt_iff_lt (by omega) fits).mpr (by omega))
    · exact .inr ⟨by rw [equal], ih equal⟩

theorem utf8EncodeChar_append_lt {c d : Char} (before : c < d) (rest rest' : List UInt8) :
    utf8EncodeChar c ++ rest < utf8EncodeChar d ++ rest' := by
  have below : c.val.toNat < d.val.toNat := before
  have bound : d.val.toNat < 0x110000 := by
    rcases d.valid with low | high <;> omega
  have bound' : c.val.toNat < 0x110000 := by omega
  rw [utf8EncodeChar_eq, utf8EncodeChar_eq, List.cons_append, List.cons_append,
    List.cons_lt_cons_iff, UInt8.ofNat_lt_iff_lt (lead_lt bound') (lead_lt bound)]
  rcases Nat.lt_or_eq_of_le (trailing_mono below.le) with fewer | same
  · left
    calc lead c.val.toNat < mark (trailing c.val.toNat + 1) := lead_lt_mark bound'
      _ ≤ mark (trailing d.val.toNat) := mark_le_mark fewer
      _ ≤ lead d.val.toNat := Nat.le_add_left _ _
  · have ordered : c.val.toNat / 64 ^ trailing d.val.toNat ≤
        d.val.toNat / 64 ^ trailing d.val.toNat := Nat.div_le_div_right below.le
    rw [lead, lead, same]
    rcases Nat.lt_or_eq_of_le ordered with less | equal
    · exact .inl (Nat.add_lt_add_right less _)
    · exact .inr ⟨by rw [equal], trail_append_lt below equal rest rest'⟩

theorem flatMap_utf8EncodeChar_lt {cs ds : List Char} (before : cs < ds) :
    cs.flatMap utf8EncodeChar < ds.flatMap utf8EncodeChar := by
  induction cs generalizing ds with
  | nil =>
    cases ds with
    | nil => exact absurd before (List.lt_irrefl _)
    | cons d ds =>
      rw [List.flatMap_nil, List.flatMap_cons, utf8EncodeChar_eq]
      exact List.nil_lt_cons _ _
  | cons c cs ih =>
    cases ds with
    | nil => exact absurd before (List.not_lt_nil _)
    | cons d ds =>
      rw [List.flatMap_cons, List.flatMap_cons]
      rcases List.cons_lt_cons_iff.mp before with less | ⟨rfl, rest⟩
      · exact utf8EncodeChar_append_lt less _ _
      · exact List.append_left_lt (ih rest)

/-- The order of texts is that of their bytes. -/
theorem lt_iff_bytes_lt {text other : String} : text < other ↔ bytes text < bytes other := by
  have forward {text other : String} (before : text < other) : bytes text < bytes other := by
    rw [bytes_eq_flatMap, bytes_eq_flatMap]
    exact flatMap_utf8EncodeChar_lt before
  constructor
  · exact forward
  · intro before
    by_cases less : text < other
    · exact less
    · by_cases same : text = other
      · rw [same] at before
        exact absurd before (List.lt_irrefl _)
      · have greater : other < text :=
          Std.lt_of_le_of_ne (String.not_lt.mp less) (Ne.symm same)
        exact absurd before (List.lt_asymm (forward greater))

end TraceLayout.Text
