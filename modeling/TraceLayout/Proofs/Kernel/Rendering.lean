import TraceLayout.Proofs.Kernel.FormatReading
import TraceLayout.Proofs.Text.Trim

/-! Format texts as the kernel writes them. Reading one gives back the format that was written: no
declaration and no print format can be taken for a line of another kind, and the blank lines fall
where the header and the event's own fields end. -/
namespace TraceLayout

theorem Text.toList_toString_word (n : UInt16) : (toString n).toList = Nat.toDigits 10 n.toNat := by
  rw [show toString n = toString n.toNat from rfl, Nat.toString_eq_ofList_toDigits,
    String.toList_ofList]

/-- A number of sixteen bits is read back from its decimal digits. -/
theorem Text.word?_toString (n : UInt16) : word? (toString n).toList = some n := by
  rw [toList_toString_word, word?_toDigits]

theorem Text.notMem_toString_word {c : Char} (other : c.isDigit = false) (n : UInt16) :
    c ∉ (toString n).toList := by
  intro member
  rw [toList_toString_word] at member
  have digit := Nat.isDigit_of_mem_toDigits (by decide) (by decide) member
  rw [other] at digit
  contradiction

namespace KernelField
open Text

def signText (field : KernelField) : String := if field.signed then "1" else "0"

/-- The line that describes a field: four parts, each with a tab before it and a semicolon after
it. -/
def line (field : KernelField) : String :=
  "\tfield:" ++ field.declaration ++ ";\toffset:" ++ toString field.offset ++ ";\tsize:" ++
    toString field.size ++ ";\tsigned:" ++ field.signText ++ ";"

/-- A field that a line can describe: the declaration is a trimmed text within one part of one line,
and the type is the one that it implies. -/
structure IsWritable (field : KernelField) : Prop where
  written : field.declaration ≠ ""
  trimmed : trim field.declaration.toList = field.declaration.toList
  oneLine : '\n' ∉ field.declaration.toList
  onePart : ';' ∉ field.declaration.toList
  inferred : field.type? = KernelType.infer field.declaration field.size field.signed

/-- One of the parts of a line behind the declaration. -/
def part (key value : String) : List Char := '\t' :: (key.toList ++ value.toList)

/-- The pieces of a field's line that semicolons end. -/
def parts (field : KernelField) : List (List Char) :=
  [field.declaration.toList, part "offset:" (toString field.offset),
    part "size:" (toString field.size), part "signed:" field.signText, []]

theorem toList_line (field : KernelField) :
    field.line.toList = '\t' :: ("field:".toList ++ [';'].intercalate field.parts) := by
  -- Not `unfold`: to state an equation for a text of so many parts takes Lean seconds.
  delta line
  simp only [String.toList_append, List.append_assoc]
  rfl

theorem trim_line (field : KernelField) :
    trim field.line.toList = "field:".toList ++ [';'].intercalate field.parts := by
  have ends : [';'].intercalate field.parts =
      [';'].intercalate field.parts.dropLast ++ [';'] := by simp [parts]
  rw [toList_line, trim_cons_of_blank (by decide), trim_append_of_trimmed rfl (by decide), ends]
  exact congrArg _ (List.rdropWhile_concat_neg _ _ _ (by decide))

/-- A part gives a value for its own key, and none for a key that it does not open with. -/
theorem valueOf?_part {key : String} (trimmed : trim key.toList = key.toList)
    (written : key.toList ≠ []) (other value : String) :
    valueOf? other (part key value) =
      (after? other.toList (key.toList ++ dropEndWhile isBlank value.toList)).map trim := by
  rw [← valueOf?_append trimmed written, valueOf?, part, trim_cons_of_blank (by decide), valueOf?]

/-- What the parts behind the declaration give for each key. -/
theorem values_parts (field : KernelField) :
    field.parts.tail.map (valueOf? "offset:") =
        [some (toString field.offset).toList, none, none, none] ∧
      field.parts.tail.map (valueOf? "size:") =
        [none, some (toString field.size).toList, none, none] ∧
      field.parts.tail.map (valueOf? "signed:") =
        [none, none, some field.signText.toList, none] := by
  have offset := @valueOf?_part "offset:" rfl (by decide)
  have size := @valueOf?_part "size:" rfl (by decide)
  have sign := @valueOf?_part "signed:" rfl (by decide)
  have signTrimmed : trim field.signText.toList = field.signText.toList := by
    unfold signText
    cases field.signed <;> decide
  simp only [parts, List.tail_cons, List.map_cons, List.map_nil, offset, size, sign, after?_append,
    Option.map_some, trim_dropEndWhile, toList_toString_word, trim_toDigits, signTrimmed]
  exact ⟨rfl, rfl, rfl⟩

/-- No part behind the declaration gives a key a value that cannot be read. -/
theorem faultless_parts (field : KernelField) :
    field.parts.tail.findSome? segmentFault? = none := by
  obtain ⟨offsets, sizes, -⟩ := values_parts field
  apply List.findSome?_eq_none_iff.mpr
  intro segment member
  have ofOffset := offsets ▸ List.mem_map_of_mem (f := valueOf? "offset:") member
  have ofSize := sizes ▸ List.mem_map_of_mem (f := valueOf? "size:") member
  simp only [List.mem_cons, List.not_mem_nil, or_false, or_self] at ofOffset ofSize
  have offset : misread? "offset:" FieldFault.badOffset segment = none := by
    rcases ofOffset with given | absent
    · simp [misread?, given, word?_toString]
    · simp [misread?, absent]
  have size : misread? "size:" FieldFault.badSize segment = none := by
    rcases ofSize with absent | given | absent
    · simp [misread?, absent]
    · simp [misread?, given, word?_toString]
    · simp [misread?, absent]
  rw [segmentFault?, offset, size, Option.or_none]

theorem attributes_parts (field : KernelField) :
    numbersOf "offset:" field.parts.tail = [field.offset] ∧
      numbersOf "size:" field.parts.tail = [field.size] ∧
      isSigned field.parts.tail = field.signed := by
  obtain ⟨offsets, sizes, signs⟩ := values_parts field
  refine ⟨?_, ?_, ?_⟩
  · rw [numbersOf_eq, offsets]
    simp [word?_toString]
  · rw [numbersOf_eq, sizes]
    simp [word?_toString]
  · have given := congrArg (List.filterMap id) signs
    rw [List.filterMap_map, Function.id_comp] at given
    rw [isSigned, given]
    unfold signText
    cases field.signed <;> rfl

section Writable
variable {field : KernelField} (writable : field.IsWritable)
include writable

theorem notMem_line : '\n' ∉ field.line.toList := by
  have noDigit := @notMem_toString_word '\n' (by decide)
  delta line
  simp only [String.toList_append, List.mem_append, not_or]
  simp [writable.oneLine, noDigit, signText]
  split <;> decide

theorem splitOn_parts : ([';'].intercalate field.parts).splitOn ';' = field.parts := by
  have noDigit := @notMem_toString_word ';' (by decide)
  apply List.splitOn_intercalate
  · intro part member
    simp only [parts, List.mem_cons, List.not_mem_nil, or_false] at member
    rcases member with rfl | rfl | rfl | rfl | rfl
    · exact writable.onePart
    · simp [KernelField.part, noDigit]
    · simp [KernelField.part, noDigit]
    · unfold signText
      cases field.signed <;> decide
    · exact List.not_mem_nil
  · exact List.cons_ne_nil _ _

theorem described_line : described ([';'].intercalate field.parts) = .ok field := by
  obtain ⟨offset, size, sign⟩ := attributes_parts field
  have first : trim (field.parts.headD []) = field.declaration.toList := writable.trimmed
  rw [described, splitOn_parts writable, ofSegments, first, faultless_parts, offset, size, sign,
    if_neg (by simpa using writable.written)]
  simp [ofDeclaration, ← writable.inferred]

end Writable

end KernelField

namespace KernelFormat
open Text

def fieldLines : List KernelField → String
  | [] => ""
  | field :: fields => field.line ++ "\n" ++ fieldLines fields

/-- The text of a format, with the print format at its end. -/
def render (format : KernelFormat) (print : String) : String :=
  "name: " ++ format.name ++ "\nID: " ++ toString format.id ++ "\nformat:\n" ++
    fieldLines format.header ++ "\n" ++ fieldLines format.fields ++ "\nprint fmt: " ++ print

/-- A format that a text can describe. A header that is empty would leave the blank line behind it
without effect. -/
structure IsWritable (format : KernelFormat) : Prop where
  assigned : 1 ≤ format.id.toNat
  bounded : format.id.toNat ≤ 65535
  nameTrimmed : trim format.name.toList = format.name.toList
  nameOneLine : '\n' ∉ format.name.toList
  headed : format.header ≠ []
  header : ∀ field ∈ format.header, field.IsWritable ∧ field.stop ≤ 65535
  fields : ∀ field ∈ format.fields, field.IsWritable

theorem lines_fieldLines {fields : List KernelField} (writable : ∀ field ∈ fields, field.IsWritable)
    (rest : List Char) :
    lines ((fieldLines fields).toList ++ rest) = fields.map (·.line.toList) ++ lines rest := by
  induction fields with
  | nil => rfl
  | cons field fields ih =>
    obtain ⟨here, writable⟩ := List.forall_mem_cons.mp writable
    have text : (fieldLines (field :: fields)).toList ++ rest =
        field.line.toList ++ '\n' :: ((fieldLines fields).toList ++ rest) := by
      simp [fieldLines]
    rw [text, lines_append_cons (KernelField.notMem_line here), ih writable, List.map_cons,
      List.cons_append]

/-- The first line of a print format ends the section, whatever follows. -/
theorem exists_lines_print (print : String) :
    ∃ line rest, lines ("print fmt: " ++ print).toList = line :: rest ∧
      (after? "print fmt:".toList (trim line)).isSome = true := by
  have ends (text : List Char) :
      (after? "print fmt:".toList (trim ("print fmt:".toList ++ ' ' :: text))).isSome = true := by
    rw [trim_append_of_trimmed rfl (by decide), after?_append]
    rfl
  have written : ("print fmt: " ++ print).toList = "print fmt:".toList ++ ' ' :: print.toList := by
    simp
  rw [written]
  by_cases feed : '\n' ∈ print.toList
  · obtain ⟨line, rest, split, free⟩ := List.eq_append_cons_of_mem feed
    refine ⟨"print fmt:".toList ++ ' ' :: line, lines rest, ?_, ends line⟩
    rw [split, ← List.cons_append, ← List.append_assoc, lines_append_cons]
    simp [free]
  · refine ⟨"print fmt:".toList ++ ' ' :: print.toList, [], ?_, ends _⟩
    exact lines_of_notMem (by simp) (by simp [feed])

namespace Section
variable {seen : Section} {fields : List KernelField} (number : Nat) (rest : List (List Char))

theorem readAll_line {field : KernelField} (writable : field.IsWritable) {more : Section}
    (added : seen.add field = .ok more) :
    seen.readAll number (field.line.toList :: rest) = more.readAll (number + 1) rest := by
  have opens := KernelField.trim_line field
  have goesOn : (after? "print fmt:".toList (trim field.line.toList)).isSome = false := by
    rw [opens]
    rfl
  have described : KernelField.description? (trim field.line.toList) =
      some ([';'].intercalate field.parts) := by
    rw [KernelField.description?, after?_eq_some_iff.mpr opens]
  have read : seen.read (trim field.line.toList) = .ok more := by
    rw [read_field seen described, KernelField.described_line writable]
    exact added
  rw [readAll, goesOn, if_neg Bool.false_ne_true, read]

/-- Lines of fields extend a section by the fields, if each can be added at its place. -/
theorem readAll_fieldLines (extend : List KernelField → Section)
    (writable : ∀ field ∈ fields, field.IsWritable)
    (added : ∀ seen, ∀ field ∈ fields, (extend seen).add field = .ok (extend (seen ++ [field])))
    (seen : List KernelField) :
    (extend seen).readAll number (fields.map (·.line.toList) ++ rest) =
      (extend (seen ++ fields)).readAll (number + fields.length) rest := by
  induction fields generalizing seen number with
  | nil => simp
  | cons field fields ih =>
    obtain ⟨here, writable⟩ := List.forall_mem_cons.mp writable
    rw [List.map_cons, List.cons_append,
      readAll_line _ _ here (added seen field List.mem_cons_self),
      ih _ writable fun seen field member => added seen field (List.mem_cons_of_mem _ member),
      List.append_assoc, List.singleton_append, List.length_cons, Nat.add_assoc, Nat.add_comm 1]

theorem readAll_blank : seen.readAll number ([] :: rest) = seen.close.readAll (number + 1) rest :=
  rfl

theorem readAll_print {line : List Char}
    (ends : (after? "print fmt:".toList (trim line)).isSome = true) :
    seen.readAll number (line :: rest) = .ok seen := by
  rw [readAll, if_pos ends]

end Section

theorem readLines_cons {line : List Char} (other : trim line ≠ "format:".toList)
    (readable : misread? "ID:" FormatError.badId line = none) (seen : Preamble) (number : Nat)
    (rest : List (List Char)) :
    readLines seen number (line :: rest) = readLines (seen.extend line) (number + 1) rest := by
  rw [readLines, if_neg other, Preamble.read_eq, readable]

theorem readLines_name {name : List Char} (trimmed : trim name = name) (seen : Preamble)
    (number : Nat) (rest : List (List Char)) :
    readLines seen number (("name:".toList ++ ' ' :: name) :: rest) =
      readLines { seen with name := String.ofList name } (number + 1) rest := by
  have opens := @trim_append_of_trimmed "name:".toList rfl (by decide) (' ' :: name)
  have other : trim ("name:".toList ++ ' ' :: name) ≠ "format:".toList := by
    rw [opens]
    intro same
    exact absurd (congrArg List.head? same) (by simp)
  have given : valueOf? "name:" ("name:".toList ++ ' ' :: name) = some name := by
    rw [@valueOf?_append_self "name:" rfl (by decide), trim_cons_of_blank (by decide), trimmed]
  have noId : valueOf? "ID:" ("name:".toList ++ ' ' :: name) = none := by
    rw [@valueOf?_append "name:" rfl (by decide)]
    rfl
  rw [readLines_cons other (by rw [misread?, noId]; rfl), Preamble.extend, given, noId]
  rfl

theorem readLines_id (id : UInt16) (seen : Preamble) (number : Nat) (rest : List (List Char)) :
    readLines seen number (("ID:".toList ++ ' ' :: (toString id).toList) :: rest) =
      readLines { seen with id? := some id } (number + 1) rest := by
  have opens := @trim_append_of_trimmed "ID:".toList rfl (by decide) (' ' :: (toString id).toList)
  have other : trim ("ID:".toList ++ ' ' :: (toString id).toList) ≠ "format:".toList := by
    rw [opens]
    intro same
    exact absurd (congrArg List.head? same) (by simp)
  have given : valueOf? "ID:" ("ID:".toList ++ ' ' :: (toString id).toList) =
      some (toString id).toList := by
    rw [@valueOf?_append_self "ID:" rfl (by decide), trim_cons_of_blank (by decide),
      toList_toString_word, trim_toDigits]
  have noName : valueOf? "name:" ("ID:".toList ++ ' ' :: (toString id).toList) = none := by
    rw [@valueOf?_append "ID:" rfl (by decide)]
    rfl
  have readable : misread? "ID:" FormatError.badId ("ID:".toList ++ ' ' :: (toString id).toList) =
      none := by
    rw [misread?, given, Option.bind_some, word?_toString]
    rfl
  rw [readLines_cons other readable, Preamble.extend, given, noName, Option.bind_some,
    word?_toString]
  rfl

theorem lines_render {format : KernelFormat} (writable : format.IsWritable) (print : String) :
    lines (format.render print).toList =
      ("name:".toList ++ ' ' :: format.name.toList) ::
      ("ID:".toList ++ ' ' :: (toString format.id.toUInt16).toList) :: "format:".toList ::
      (format.header.map (·.line.toList) ++ [] :: (format.fields.map (·.line.toList) ++
        [] :: lines ("print fmt: " ++ print).toList)) := by
  have number : toString format.id = toString format.id.toUInt16 := by
    have same : format.id.toUInt16.toNat = format.id.toNat :=
      Nat.mod_eq_of_lt (Nat.lt_succ_of_le writable.bounded)
    exact congrArg toString same.symm
  have text : (format.render print).toList =
      ("name:".toList ++ ' ' :: format.name.toList) ++ '\n' ::
      (("ID:".toList ++ ' ' :: (toString format.id.toUInt16).toList) ++ '\n' ::
      ("format:".toList ++ '\n' :: ((fieldLines format.header).toList ++ ([] ++ '\n' ::
      ((fieldLines format.fields).toList ++ ([] ++ '\n' ::
      ("print fmt: " ++ print).toList)))))) := by
    delta render
    simp only [number, String.toList_append, List.append_assoc]
    rfl
  have nameFree : '\n' ∉ "name:".toList ++ ' ' :: format.name.toList := by
    simp [writable.nameOneLine]
  have idFree : '\n' ∉ "ID:".toList ++ ' ' :: (toString format.id.toUInt16).toList := by
    simp [@notMem_toString_word '\n' rfl]
  have blankFree := List.not_mem_nil (a := '\n')
  rw [text, lines_append_cons nameFree, lines_append_cons idFree, lines_append_cons (by decide),
    lines_fieldLines fun field member => (writable.header field member).1,
    lines_append_cons blankFree, lines_fieldLines writable.fields, lines_append_cons blankFree]

/-- What the lines of a text say is the section that was written into them. -/
theorem Section.readAll_render {format : KernelFormat} (writable : format.IsWritable)
    (print : String) (number : Nat) :
    readAll {} number (format.header.map (·.line.toList) ++ [] ::
        (format.fields.map (·.line.toList) ++ [] :: lines ("print fmt: " ++ print).toList)) =
      .ok ⟨format.header, format.fields, true⟩ := by
  obtain ⟨line, rest, split, ends⟩ := exists_lines_print print
  have header := fun rest => readAll_fieldLines number rest (fun header => ⟨header, [], false⟩)
    (fun field member => (writable.header field member).1)
    (fun seen field member => by
      simp [add, lastByte, Nat.not_lt_of_le (writable.header field member).2]) []
  have fields := fun number rest => readAll_fieldLines number rest
    (fun fields => ⟨format.header, fields, true⟩) writable.fields (fun _ _ _ => rfl) []
  have filled : format.header.isEmpty = false := by simpa using writable.headed
  have closes : (Section.mk format.header [] false).close = ⟨format.header, [], true⟩ := by
    simp [close, filled]
  rw [split]
  refine (header _).trans ?_
  rw [List.nil_append, readAll_blank, closes]
  refine (fields _ _).trans ?_
  rw [List.nil_append, readAll_blank, readAll_print _ _ ends]
  rfl

/-- Reading the text of a format gives the format back, whatever is written as its print format. -/
theorem parse_render {format : KernelFormat} (writable : format.IsWritable) (print : String) :
    parse (format.render print) = .ok format := by
  have opens (seen : Preamble) (number : Nat) (rest : List (List Char)) :
      readLines seen number ("format:".toList :: rest) =
        (Section.readAll {} (number + 1) rest).map fun fields => (seen, some fields) := by
    have marker : trim "format:".toList = "format:".toList := by decide
    rw [readLines, if_pos marker]
  have same : format.id.toUInt16.toUInt32 = format.id := by
    apply UInt32.toNat_inj.mp
    exact Nat.mod_eq_of_lt (Nat.lt_succ_of_le writable.bounded)
  have assigned : format.id.toUInt16 ≠ 0 := by
    intro zero
    have none_ : format.id = 0 := by rw [← same, zero]; rfl
    exact absurd writable.assigned (by rw [none_]; decide)
  rw [parse, lines_render writable, readLines_name writable.nameTrimmed, readLines_id, opens,
    Section.readAll_render writable]
  simp [Except.map, assemble, assigned, writable.headed, same]

/-- A format whose declarations hold tabs, marks of other lines and no ASCII at all. -/
def wakeFormat : KernelFormat where
  name := "ID: wake"
  id := 65535
  header := [.ofDeclaration "unsigned short common_type" 65533 2 false,
    .ofDeclaration "print fmt:\tint" 0 0 true]
  fields := [.ofDeclaration "__data_loc char[] имя" 8 4 false,
    .ofDeclaration "format:" 65535 65535 true]

theorem parse_render_sample :
    wakeFormat.IsWritable ∧
    parse (wakeFormat.render "\"%s\"\n\tfield:int x;\toffset:0;\tsize:4;\tsigned:1;\n") =
      .ok wakeFormat := by
  have writable : wakeFormat.IsWritable := by
    refine ⟨by decide, by decide, by decide, by decide, by decide, ?_, ?_⟩
    · intro field member
      simp only [wakeFormat, List.mem_cons, List.not_mem_nil, or_false] at member
      rcases member with rfl | rfl
      all_goals exact ⟨⟨by decide, by decide, by decide, by decide, rfl⟩, by decide⟩
    · intro field member
      simp only [wakeFormat, List.mem_cons, List.not_mem_nil, or_false] at member
      rcases member with rfl | rfl
      all_goals exact ⟨by decide, by decide, by decide, by decide, rfl⟩
  exact ⟨writable, parse_render writable _⟩

end KernelFormat
end TraceLayout
