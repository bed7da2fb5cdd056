import TraceLayout.Proofs.Kernel.FormatReading

/-! What holds of every format that a text parses to: its id is a positive number of sixteen bits,
its header has a field and ends within a record, and a line of the text describes each of its
fields. -/
namespace TraceLayout.KernelFormat
open Text KernelField

/-- A line of the text describes the field by this description. -/
def Describes (text : String) (description : List Char) (field : KernelField) : Prop :=
  (∃ line ∈ lines text.toList, description? (trim line) = some description) ∧
    described description = .ok field

theorem mem_fieldsOf {read : List Char → Except FieldFault KernelField}
    {body : List (List Char × Nat)} {field : KernelField} :
    field ∈ fieldsOf (entriesOf read body) ↔
      ∃ line ∈ body, ∃ description, description? (trim line.1) = some description ∧
        read description = .ok field := by
  simp only [fieldsOf, entriesOf, List.mem_filterMap, Option.map_eq_some_iff]
  constructor
  · rintro ⟨entry, ⟨line, member, description, found, rfl⟩, kept⟩
    refine ⟨line, member, description, found, ?_⟩
    cases outcome : read description with
    | error fault => simp [outcome, Except.toOption] at kept
    | ok other => simpa [outcome, Except.toOption] using kept
  · rintro ⟨line, member, description, found, outcome⟩
    exact ⟨_, ⟨line, member, description, found, rfl⟩, by simp [outcome, Except.toOption]⟩

theorem mem_of_sectionFrom? {first : Nat} {lines : List (List Char)}
    {body : List (List Char × Nat)} (found : sectionFrom? first lines = some body)
    {line : List Char × Nat} (member : line ∈ body) : line.1 ∈ lines := by
  unfold sectionFrom? at found
  split at found
  · contradiction
  · rename_i opener rest from_
    obtain rfl := Option.some.inj found
    have inRest : line ∈ opener :: rest :=
      List.mem_cons_of_mem _ ((List.takeWhile_sublist _).subset member)
    rw [← from_] at inRest
    exact List.fst_mem_of_mem_zipIdx ((List.dropWhile_sublist _).subset inRest)

theorem mem_of_mem_ownLines {body : List (List Char × Nat)} {line : List Char × Nat}
    (member : line ∈ ownLines body) : line ∈ body :=
  (List.dropWhile_sublist _).subset ((List.dropWhile_sublist _).subset member)

theorem reading_ok {lines : List (List Char)} {format : KernelFormat}
    (read : reading lines = .ok format) :
    ∃ (id : UInt16) (body : List (List Char × Nat)), id ≠ 0 ∧ format.id = id.toUInt32 ∧
      sectionFrom? 1 lines = some body ∧
      firstFault? (entriesOf describedHeader (headerLines body) ++
        entriesOf described (ownLines body)) = none ∧
      body.all (!isFieldLine ·.1) = false ∧
      format.header = fieldsOf (entriesOf describedHeader (headerLines body)) ∧
      format.fields = fieldsOf (entriesOf described (ownLines body)) := by
  unfold reading at read
  simp only at read
  split at read
  · contradiction
  · contradiction
  split at read
  · contradiction
  · contradiction
  rename_i faultless _ _ id body _ found
  split at read
  · contradiction
  rename_i assigned
  split at read
  · contradiction
  rename_i listed
  obtain rfl := Except.ok.inj read
  rw [found, Option.getD_some] at faultless listed
  exact ⟨id, body, assigned, rfl, found, faultless, Bool.eq_false_iff.mpr listed,
    by rw [found]; rfl, by rw [found]; rfl⟩

section Parsed
variable {text : String} {format : KernelFormat} (parsed : parse text = .ok format)
include parsed

/-- No parsed format has id zero, and every id fits sixteen bits. -/
theorem id_of_parse : format.id ≠ 0 ∧ format.id.toNat < 65536 := by
  rw [parse_eq] at parsed
  obtain ⟨id, -, assigned, same, -⟩ := reading_ok parsed
  have small := id.toNat_lt
  rw [same]
  constructor
  · intro zero
    apply assigned
    apply UInt16.toNat_inj.mp
    simpa using congrArg UInt32.toNat zero
  · simpa using small

theorem describes_of_mem_fields {field : KernelField} (member : field ∈ format.fields) :
    ∃ description, Describes text description field := by
  rw [parse_eq] at parsed
  obtain ⟨-, body, -, -, found, -, -, -, fields⟩ := reading_ok parsed
  rw [fields] at member
  obtain ⟨line, own, description, field, outcome⟩ := mem_fieldsOf.mp member
  exact ⟨description, ⟨line.1, mem_of_sectionFrom? found (mem_of_mem_ownLines own), field⟩, outcome⟩

theorem stop_le_of_mem_header {field : KernelField} (member : field ∈ format.header) :
    field.stop ≤ lastByte := by
  rw [parse_eq] at parsed
  obtain ⟨-, body, -, -, -, -, -, header, -⟩ := reading_ok parsed
  rw [header] at member
  obtain ⟨line, -, description, -, outcome⟩ := mem_fieldsOf.mp member
  unfold describedHeader at outcome
  split at outcome
  · contradiction
  split at outcome
  · contradiction
  · rename_i short
    exact Except.ok.inj outcome ▸ Nat.le_of_not_lt short

/-- The first field line of the section is one of the header, whatever blank lines come before. -/
theorem header_ne_nil_of_parse : format.header ≠ [] := by
  rw [parse_eq] at parsed
  obtain ⟨-, body, -, -, -, faultless, someField, header, -⟩ := reading_ok parsed
  rw [firstFault?_append, Option.or_eq_none_iff] at faultless
  intro none_
  rw [header, fieldsOf_eq_nil_iff faultless.1, headerEntries_eq_nil_iff, fromFirstField,
    List.dropWhile_eq_nil_iff, ← List.all_eq_true, someField] at none_
  contradiction

end Parsed

end TraceLayout.KernelFormat
