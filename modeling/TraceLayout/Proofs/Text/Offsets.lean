import TraceLayout.Text.Blank

/-! Byte offsets. A text is searched and cut by the offsets that its characters have in UTF-8. It
can be cut between two characters only, and the offset of a character found in it is such a place.
-/
namespace TraceLayout.Text

/-- The number of bytes of a text in UTF-8. -/
def byteSize (cs : List Char) : Nat := (String.ofList cs).utf8ByteSize

/-- An offset inside a character, or behind the end of a text. -/
structure CutFault where
  offset : Nat
  deriving DecidableEq, Repr

/-- The parts of a text before a byte offset and from it on. -/
def cutAt (cs : List Char) (offset : Nat) : Except CutFault (List Char × List Char) :=
  let text := String.ofList cs
  if valid : (String.Pos.Raw.mk offset).IsValid text then
    let place := text.pos ⟨offset⟩ valid
    .ok ((text.sliceTo place).copy.toList, (text.sliceFrom place).copy.toList)
  else .error ⟨offset⟩

/-- The byte offset of the first character that satisfies `p`. -/
def firstOffset? (p : Char → Bool) : List Char → Option Nat
  | [] => none
  | c :: cs => if p c then some 0 else (firstOffset? p cs).map (c.utf8Size + ·)

/-- The byte offset of the last character that satisfies `p`. -/
def lastOffset? (p : Char → Bool) : List Char → Option Nat
  | [] => none
  | c :: cs =>
    match lastOffset? p cs with
    | some offset => some (c.utf8Size + offset)
    | none => if p c then some 0 else none

theorem byteSize_cons (c : Char) (cs : List Char) :
    byteSize (c :: cs) = c.utf8Size + byteSize cs := by
  rw [byteSize, String.ofList_cons, String.utf8ByteSize_append, String.utf8ByteSize_singleton,
    byteSize]

theorem byteSize_append (front back : List Char) :
    byteSize (front ++ back) = byteSize front + byteSize back := by
  rw [byteSize, String.ofList_append, String.utf8ByteSize_append, byteSize, byteSize]

theorem cutAt_append (front back : List Char) :
    cutAt (front ++ back) (byteSize front) = .ok (front, back) := by
  have joined : String.ofList (front ++ back) = String.ofList front ++ String.ofList back :=
    String.ofList_append
  have valid : (String.Pos.Raw.mk (byteSize front)).IsValid (String.ofList (front ++ back)) :=
    String.Pos.Raw.isValid_iff_exists_append.mpr ⟨_, _, joined, rfl⟩
  have parts : ((String.ofList (front ++ back)).pos _ valid).Splits (String.ofList front)
      (String.ofList back) := ⟨joined, rfl⟩
  simp only [cutAt, dif_pos valid, parts.copy_sliceTo_eq, parts.copy_sliceFrom_eq,
    String.toList_ofList]

/-- A text is cut exactly between two of its characters. -/
theorem cutAt_eq_ok_iff {cs front back : List Char} {offset : Nat} :
    cutAt cs offset = .ok (front, back) ↔ cs = front ++ back ∧ offset = byteSize front := by
  constructor
  · intro cut
    simp only [cutAt] at cut
    split at cut
    · rename_i valid
      obtain ⟨joined, place⟩ := ((String.ofList cs).pos ⟨offset⟩ valid).splits
      obtain ⟨rfl, rfl⟩ := Prod.mk.inj (Except.ok.inj cut)
      constructor
      · rw [← String.toList_append, ← joined, String.toList_ofList]
      · rw [byteSize, String.ofList_toList]
        exact congrArg String.Pos.Raw.byteIdx place
    · contradiction
  · rintro ⟨rfl, rfl⟩
    exact cutAt_append front back

/-- A wide space cannot be cut behind its first byte. -/
example : cutAt "\u3000x".toList 1 = .error ⟨1⟩ := rfl

/-- A text is cut behind a character by its size. -/
theorem cutAt_behind (front : List Char) (c : Char) (back : List Char) :
    cutAt (front ++ c :: back) (byteSize front + c.utf8Size) = .ok (front ++ [c], back) := by
  have size : byteSize (front ++ [c]) = byteSize front + c.utf8Size := by
    rw [byteSize_append, byteSize_cons]
    rfl
  have cut := cutAt_append (front ++ [c]) back
  rwa [size, List.append_assoc, List.singleton_append] at cut

section First
variable {mark : Char}

theorem firstOffset?_of_notMem {cs : List Char} (absent : mark ∉ cs) :
    firstOffset? (· == mark) cs = none := by
  induction cs with
  | nil => rfl
  | cons c cs ih =>
    obtain ⟨other, later⟩ := not_or.mp (mt List.mem_cons.mpr absent)
    simp [firstOffset?, Ne.symm other, ih later]

theorem firstOffset?_append_cons {early : List Char} (absent : mark ∉ early) (late : List Char) :
    firstOffset? (· == mark) (early ++ mark :: late) = some (byteSize early) := by
  induction early with
  | nil => simp [firstOffset?, byteSize]
  | cons c early ih =>
    obtain ⟨other, later⟩ := not_or.mp (mt List.mem_cons.mpr absent)
    simp [firstOffset?, Ne.symm other, ih later, byteSize_cons]

end First

section Last
variable {p : Char → Bool}

theorem lastOffset?_eq_none_iff {cs : List Char} :
    lastOffset? p cs = none ↔ ∀ c ∈ cs, p c = false := by
  induction cs with
  | nil => simp [lastOffset?]
  | cons c cs ih =>
    rw [List.forall_mem_cons, ← ih, lastOffset?]
    cases lastOffset? p cs <;> simp

theorem lastOffset?_append_cons {early late : List Char} {c : Char} (found : p c = true)
    (behind : ∀ c ∈ late, p c = false) :
    lastOffset? p (early ++ c :: late) = some (byteSize early) := by
  induction early with
  | nil => simp [lastOffset?, lastOffset?_eq_none_iff.mpr behind, found, byteSize]
  | cons first early ih => simp [lastOffset?, ih, byteSize_cons]

end Last

end TraceLayout.Text
