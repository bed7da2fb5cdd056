import Mathlib.Data.List.DropRight
import TraceLayout.Proofs.Text.Lines

/-! What trimming makes of a text that is written with white space around it, and what a reader
then finds behind a key. -/
namespace TraceLayout.Text

theorem dropEndWhile_append (p : Char → Bool) (front back : List Char) :
    dropEndWhile p (front ++ back) =
      if dropEndWhile p back = [] then dropEndWhile p front else front ++ dropEndWhile p back := by
  simp only [dropEndWhile, List.reverse_append, List.dropWhile_append, List.reverse_eq_nil_iff,
    List.isEmpty_iff]
  split
  · rfl
  · rw [List.reverse_append, List.reverse_reverse]

theorem dropEndWhile_eq_nil_iff {p : Char → Bool} {cs : List Char} :
    dropEndWhile p cs = [] ↔ ∀ c ∈ cs, p c = true :=
  List.rdropWhile_eq_nil_iff

theorem dropEndWhile_eq_self_iff {p : Char → Bool} {cs : List Char} :
    dropEndWhile p cs = cs ↔ ∀ c ∈ cs.getLast?, p c = false := by
  refine List.rdropWhile_eq_self_iff.trans ⟨?_, ?_⟩
  · intro ends c last
    obtain ⟨written, rfl⟩ := List.mem_getLast?_eq_getLast last
    exact Bool.eq_false_iff.mpr (ends written)
  · intro ends written
    exact Bool.eq_false_iff.mp (ends _ (List.getLast?_eq_some_getLast written))

/-- A text is trimmed if nothing can be dropped at either end. -/
theorem trim_eq_self_iff {cs : List Char} :
    trim cs = cs ↔ cs.dropWhile isBlank = cs ∧ dropEndWhile isBlank cs = cs := by
  constructor
  · intro trimmed
    have shorter : (trim cs).length ≤ (cs.dropWhile isBlank).length :=
      (List.rdropWhile_prefix isBlank (cs.dropWhile isBlank)).length_le
    rw [trimmed] at shorter
    have kept : cs.dropWhile isBlank = cs :=
      (List.dropWhile_suffix isBlank).eq_of_length_le shorter
    rw [trim, kept] at trimmed
    exact ⟨kept, trimmed⟩
  · rintro ⟨front, back⟩
    rw [trim, front, back]

theorem trim_eq_nil_iff {cs : List Char} : trim cs = [] ↔ ∀ c ∈ cs, isBlank c = true := by
  rw [trim, dropEndWhile_eq_nil_iff]
  constructor
  · intro blank c member
    rw [← @List.takeWhile_append_dropWhile _ isBlank cs, List.mem_append] at member
    rcases member with front | back
    · exact List.mem_takeWhile_imp front
    · exact blank c back
  · exact fun blank c member => blank c ((List.dropWhile_sublist _).subset member)

theorem notMem_of_blank {c : Char} (solid : isBlank c = false) {blanks : List Char}
    (blank : ∀ c ∈ blanks, isBlank c = true) : c ∉ blanks := by
  intro member
  rw [blank c member] at solid
  contradiction

theorem trim_cons_of_blank {c : Char} (blank : isBlank c = true) (cs : List Char) :
    trim (c :: cs) = trim cs := by
  rw [trim, List.dropWhile_cons_of_pos blank, trim]

theorem trim_append_of_blank_left {blanks : List Char} (blank : ∀ c ∈ blanks, isBlank c = true)
    (cs : List Char) : trim (blanks ++ cs) = trim cs := by
  rw [trim, List.dropWhile_append_of_pos blank, trim]

theorem trim_append_of_blank {blanks : List Char} (blank : ∀ c ∈ blanks, isBlank c = true)
    (cs : List Char) : trim (cs ++ blanks) = trim cs := by
  have gone : dropEndWhile isBlank blanks = [] := dropEndWhile_eq_nil_iff.mpr blank
  rw [trim, trim, List.dropWhile_append]
  split
  · rename_i empty
    rw [List.isEmpty_iff.mp empty, List.dropWhile_eq_nil_iff.mpr blank]
  · rw [dropEndWhile_append, if_pos gone]

/-- Trimming takes white space off at both ends. -/
theorem exists_blanks_trim (cs : List Char) :
    ∃ front back, (∀ c ∈ front, isBlank c = true) ∧ (∀ c ∈ back, isBlank c = true) ∧
      cs = front ++ trim cs ++ back := by
  have front : cs.takeWhile isBlank ++ cs.dropWhile isBlank = cs :=
    List.takeWhile_append_dropWhile
  have back : trim cs ++ (cs.dropWhile isBlank).rtakeWhile isBlank = cs.dropWhile isBlank :=
    List.rdropWhile_append_rtakeWhile
  refine ⟨cs.takeWhile isBlank, (cs.dropWhile isBlank).rtakeWhile isBlank,
    fun c => List.mem_takeWhile_imp, fun c => List.mem_rtakeWhile_imp, ?_⟩
  rw [List.append_assoc, back, front]

theorem trim_dropEndWhile (cs : List Char) : trim (dropEndWhile isBlank cs) = trim cs := by
  have parts : dropEndWhile isBlank cs ++ cs.rtakeWhile isBlank = cs :=
    List.rdropWhile_append_rtakeWhile
  have blank : ∀ c ∈ cs.rtakeWhile isBlank, isBlank c = true := fun c => List.mem_rtakeWhile_imp
  rw [← trim_append_of_blank blank, parts]

theorem trim_trim (cs : List Char) : trim (trim cs) = trim cs := by
  refine trim_eq_self_iff.mpr ⟨?_, List.rdropWhile_idempotent _ _⟩
  cases trimmed : trim cs with
  | nil => rfl
  | cons c rest =>
    have opens : c :: rest <+: cs.dropWhile isBlank :=
      trimmed ▸ List.rdropWhile_prefix isBlank (cs.dropWhile isBlank)
    obtain ⟨back, front⟩ := opens
    have head := List.head?_dropWhile_not isBlank cs
    rw [← front] at head
    exact List.dropWhile_cons_of_neg (Bool.eq_false_iff.mp head)

theorem getLast?_trim (cs : List Char) : ∀ c ∈ (trim cs).getLast?, isBlank c = false :=
  dropEndWhile_eq_self_iff.mp (List.rdropWhile_idempotent _ _)

theorem length_trim_le (cs : List Char) : (trim cs).length ≤ cs.length :=
  (List.rdropWhile_prefix isBlank _).length_le.trans (List.dropWhile_suffix isBlank).length_le

/-- White space inside a trimmed text has something written on either side. -/
theorem written_around {cs front back : List Char} {b : Char} (text : trim cs = front ++ b :: back)
    (blank : isBlank b = true) : trim front ≠ [] ∧ trim back ≠ [] := by
  have whole : trim (front ++ b :: back) = front ++ b :: back := by rw [← text, trim_trim]
  constructor
  · intro gone
    rw [trim_append_of_blank_left (trim_eq_nil_iff.mp gone), trim_cons_of_blank blank] at whole
    have shorter := length_trim_le back
    rw [whole, List.length_append, List.length_cons] at shorter
    omega
  · intro gone
    have blanks : ∀ c ∈ b :: back, isBlank c = true :=
      List.forall_mem_cons.mpr ⟨blank, trim_eq_nil_iff.mp gone⟩
    rw [trim_append_of_blank blanks] at whole
    have shorter := length_trim_le front
    rw [whole, List.length_append, List.length_cons] at shorter
    omega

/-- The beginning of a trimmed text is trimmed if it does not end in white space. -/
theorem trim_of_isPrefix {cs front : List Char} (opens : front <+: trim cs)
    (solid : ∀ c ∈ front.getLast?, isBlank c = false) : trim front = front := by
  refine trim_eq_self_iff.mpr ⟨?_, dropEndWhile_eq_self_iff.mpr solid⟩
  cases front with
  | nil => rfl
  | cons c rest =>
    obtain ⟨back, text⟩ := opens
    have first : trim cs = [] ++ c :: (rest ++ back) := text.symm
    apply List.dropWhile_cons_of_neg
    intro blank
    exact (written_around first blank).1 rfl

/-- Behind a text that is not blank, trimming leaves all up to an ending without white space. -/
theorem exists_trim_append {front back : List Char} (written : trim front ≠ []) (more : back ≠ [])
    (solid : ∀ c ∈ back.getLast?, isBlank c = false) :
    ∃ blanks, (∀ c ∈ blanks, isBlank c = true) ∧
      trim (front ++ back) = trim front ++ (blanks ++ back) := by
  have kept : front.dropWhile isBlank ≠ [] := by
    intro gone
    rw [trim, gone] at written
    exact written rfl
  have whole : dropEndWhile isBlank back = back := dropEndWhile_eq_self_iff.mpr solid
  have parts : trim front ++ (front.dropWhile isBlank).rtakeWhile isBlank =
      front.dropWhile isBlank := List.rdropWhile_append_rtakeWhile
  refine ⟨(front.dropWhile isBlank).rtakeWhile isBlank, fun c => List.mem_rtakeWhile_imp, ?_⟩
  rw [← List.append_assoc, parts, trim, List.dropWhile_append, if_neg (by simpa using kept),
    dropEndWhile_append, whole, if_neg more]

/-- A text with white space in it has a last character of it. -/
theorem exists_last_blank {cs : List Char} (some_ : ∃ c ∈ cs, isBlank c = true) :
    ∃ early b late, cs = early ++ b :: late ∧ isBlank b = true ∧ ∀ c ∈ late, isBlank c = false := by
  have kept : cs.rdropWhile (!isBlank ·) ≠ [] := by
    intro none_
    obtain ⟨c, member, blank⟩ := some_
    have solid := List.rdropWhile_eq_nil_iff.mp none_ c member
    rw [blank] at solid
    contradiction
  refine ⟨(cs.rdropWhile (!isBlank ·)).dropLast, (cs.rdropWhile (!isBlank ·)).getLast kept,
    cs.rtakeWhile (!isBlank ·), ?_, ?_, ?_⟩
  · rw [← List.singleton_append, ← List.append_assoc, List.dropLast_concat_getLast,
      List.rdropWhile_append_rtakeWhile]
  · simpa using List.rdropWhile_last_not (!isBlank ·) cs kept
  · intro c member
    simpa using List.mem_rtakeWhile_imp member

/-- The end of a trimmed text has white space in front at most. -/
theorem exists_eq_append_trim {cs front back : List Char} (text : trim cs = front ++ back)
    (written : trim back ≠ []) :
    ∃ blanks, (∀ c ∈ blanks, isBlank c = true) ∧ back = blanks ++ trim back := by
  refine ⟨back.takeWhile isBlank, fun c => List.mem_takeWhile_imp, ?_⟩
  have parts : back.takeWhile isBlank ++ back.dropWhile isBlank = back :=
    List.takeWhile_append_dropWhile
  have whole : dropEndWhile isBlank (trim cs) = trim cs := List.rdropWhile_idempotent _ _
  have some_ : dropEndWhile isBlank (back.dropWhile isBlank) ≠ [] := written
  rw [text, ← parts, ← List.append_assoc, dropEndWhile_append, if_neg some_] at whole
  have same := List.append_cancel_left whole
  exact parts.symm.trans (congrArg _ same.symm)

/-- Trimming leaves a mark that opens a text and is trimmed itself. -/
theorem trim_append_of_trimmed {mark : List Char} (trimmed : trim mark = mark) (written : mark ≠ [])
    (rest : List Char) : trim (mark ++ rest) = mark ++ dropEndWhile isBlank rest := by
  obtain ⟨front, back⟩ := trim_eq_self_iff.mp trimmed
  rw [trim, List.dropWhile_append, front, if_neg (by simpa using written), dropEndWhile_append]
  split
  · rename_i gone
    rw [gone, back, List.append_nil]
  · rfl

@[simp]
theorem after?_append (mark rest : List Char) : after? mark (mark ++ rest) = some rest :=
  after?_eq_some_iff.mpr rfl

section Key
variable {key : String} (trimmed : trim key.toList = key.toList) (written : key.toList ≠ [])
  (value : List Char)
include trimmed written

/-- What a segment that opens with a key gives for any other key. -/
theorem valueOf?_append (other : String) :
    valueOf? other (key.toList ++ value) =
      (after? other.toList (key.toList ++ dropEndWhile isBlank value)).map trim := by
  rw [valueOf?, trim_append_of_trimmed trimmed written]

theorem valueOf?_append_self : valueOf? key (key.toList ++ value) = some (trim value) := by
  rw [valueOf?_append trimmed written, after?_append, Option.map_some, trim_dropEndWhile]

end Key

theorem isBlank_of_isDigit {c : Char} (digit : c.isDigit = true) : isBlank c = false := by
  have bounds : 48 ≤ c.toNat ∧ c.toNat ≤ 57 := by
    simpa [Char.isDigit, UInt32.le_iff_toNat_le] using digit
  simp [isBlank, blankRanges]
  omega

/-- A text without white space is trimmed. -/
theorem trim_of_notBlank {cs : List Char} (solid : ∀ c ∈ cs, isBlank c = false) : trim cs = cs := by
  refine trim_eq_self_iff.mpr ⟨?_, List.rdropWhile_eq_self_iff.mpr fun written => ?_⟩
  · cases cs with
    | nil => rfl
    | cons c cs => rw [List.dropWhile_cons_of_neg (by simp [solid c List.mem_cons_self])]
  · simp [solid _ (List.getLast_mem written)]

theorem trim_toDigits (n : Nat) : trim (Nat.toDigits 10 n) = Nat.toDigits 10 n :=
  trim_of_notBlank fun _ member =>
    isBlank_of_isDigit (Nat.isDigit_of_mem_toDigits (by decide) (by decide) member)

/-- A number of sixteen bits is read back from its decimal digits. -/
theorem word?_toDigits (n : UInt16) : word? (Nat.toDigits 10 n.toNat) = some n := by
  have digits : ∀ c ∈ Nat.toDigits 10 n.toNat, c.isDigit = true := fun _ member =>
    Nat.isDigit_of_mem_toDigits (by decide) (by decide) member
  have unsigned : unsignedPart (Nat.toDigits 10 n.toNat) = Nat.toDigits 10 n.toNat := by
    unfold unsignedPart
    split
    · rename_i sign
      rw [sign] at digits
      exact absurd (digits '+' List.mem_cons_self) (by decide)
    · rfl
  have value : numeral? (Nat.toDigits 10 n.toNat) = some n.toNat := by
    simp only [numeral?, unsigned]
    rw [if_pos ⟨Nat.toDigits_ne_nil, List.all_eq_true.mpr digits⟩, Nat.ofDigitChars_ten_toDigits]
  rw [word?, value, Option.bind_some, dif_pos n.toNat_lt]
  exact congrArg some (UInt16.ofNatLT_toNat n)

end TraceLayout.Text
