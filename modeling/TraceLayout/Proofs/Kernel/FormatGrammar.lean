import Mathlib.Data.List.Forall2
import TraceLayout.Proofs.Kernel.FieldSegments

/-! What a format text says, in rules about its lines: by what they open with, which of their values
are numerals, and which line with a fault comes first. Parsing a text follows these rules. -/
namespace TraceLayout

/-- The first of some items that stands in a relation, and what it is related to. -/
def First {α β : Type} (R : α → β → Prop) (items : List α) (item : α) (found : β) : Prop :=
  ∃ before after, items = before ++ item :: after ∧ R item found ∧
    ∀ other ∈ before, ∀ also, ¬ R other also

section First
variable {α β : Type} {R : α → β → Prop} {find? : α → Option β}
  (same : ∀ item found, find? item = some found ↔ R item found) {items : List α}
include same

theorem eq_none_iff_forall_not (item : α) : find? item = none ↔ ∀ found, ¬ R item found := by
  rw [Option.eq_none_iff_forall_ne_some]
  exact forall_congr' fun found => not_congr (same item found)

theorem findSome?_eq_some_iff_first {found : β} :
    items.findSome? find? = some found ↔ ∃ item, First R items item found := by
  rw [List.findSome?_eq_some_iff]
  simp only [same, eq_none_iff_forall_not same]
  constructor
  · rintro ⟨before, item, after, split, holds, none_⟩
    exact ⟨item, before, after, split, holds, none_⟩
  · rintro ⟨item, before, after, split, holds, none_⟩
    exact ⟨before, item, after, split, holds, none_⟩

theorem findSome?_eq_none_iff_forall :
    items.findSome? find? = none ↔ ∀ item ∈ items, ∀ found, ¬ R item found := by
  rw [List.findSome?_eq_none_iff]
  simp only [eq_none_iff_forall_not same]

end First

/-- What is made of the first of some items is made of what it is related to. -/
theorem first_made_iff {α β γ : Type} {R : α → β → Prop} {make : α → β → γ} {items : List α}
    {item : α} {made : γ} :
    First (fun item made => ∃ found, R item found ∧ make item found = made) items item made ↔
      ∃ found, First R items item found ∧ make item found = made := by
  constructor
  · rintro ⟨before, after, split, ⟨found, holds, same⟩, none_⟩
    refine ⟨found, ⟨before, after, split, holds, ?_⟩, same⟩
    exact fun other member also holds => none_ other member _ ⟨also, holds, rfl⟩
  · rintro ⟨found, ⟨before, after, split, holds, none_⟩, same⟩
    refine ⟨before, after, split, ⟨found, holds, same⟩, ?_⟩
    exact fun other member _ ⟨also, holds, _⟩ => none_ other member also holds

namespace Text

/-- A numeral that fits sixteen bits. -/
def IsWord (cs : List Char) : Prop := ∃ n ≤ 65535, Numeral cs n

/-- A line or segment gives a key this value, which is no numeral that fits. -/
def Misgives (key : String) (segment value : List Char) : Prop :=
  valueOf? key segment = some value ∧ ¬ IsWord value

theorem misread?_eq_some_iff {ε : Type} {key : String} {error : String → ε} {segment : List Char}
    {found : ε} :
    misread? key error segment = some found ↔
      ∃ value, Misgives key segment value ∧ error (String.ofList value) = found := by
  rw [misread?, Option.bind_eq_some_iff]
  refine exists_congr fun value => ?_
  rw [Misgives, and_assoc, IsWord, ← isSome_word?_iff]
  refine and_congr_right fun _ => ?_
  cases (word? value).isSome <;> simp

/-- What a text is split at is in none of its pieces. -/
theorem notMem_of_mem_splitOn {separator : Char} {cs piece : List Char}
    (member : piece ∈ cs.splitOn separator) : separator ∉ piece := by
  induction length : cs.length using Nat.strongRecOn generalizing cs with
  | ind n ih =>
    by_cases split : separator ∈ cs
    · obtain ⟨front, back, rfl, free⟩ := List.eq_append_cons_of_mem split
      rw [List.splitOn_append_cons_self_of_not_mem free] at member
      rcases List.mem_cons.mp member with rfl | member
      · exact free
      · rw [List.length_append, List.length_cons] at length
        exact ih back.length (by omega) member rfl
    · rw [List.splitOn_eq_singleton split] at member
      exact List.mem_singleton.mp member ▸ split

end Text

namespace KernelField
open Text

/-- The fault that a segment has by itself. -/
inductive HasFault (segment : List Char) : FieldFault → Prop
  | offset : Misgives "offset:" segment value → HasFault segment (.badOffset (String.ofList value))
  | size : Misgives "size:" segment value → HasFault segment (.badSize (String.ofList value))

/-- What a declaration and segments say of a field, well or badly. A missing declaration comes
first, then the first segment with a fault, then a missing offset, and last a missing size. -/
inductive Says (declaration : List Char) (segments : List (List Char)) :
    Except FieldFault KernelField → Prop
  | undeclared : trim declaration = [] → Says declaration segments (.error .noDeclaration)
  | faulty {segment : List Char} : trim declaration ≠ [] →
      First HasFault segments segment fault → Says declaration segments (.error fault)
  | unplaced : trim declaration ≠ [] → (∀ segment ∈ segments, ∀ fault, ¬ HasFault segment fault) →
      valuesOf "offset:" segments = [] →
      Says declaration segments (.error (.noOffset (String.ofList (trim declaration))))
  | unsized : trim declaration ≠ [] → (∀ segment ∈ segments, ∀ fault, ¬ HasFault segment fault) →
      valuesOf "offset:" segments ≠ [] → valuesOf "size:" segments = [] →
      Says declaration segments (.error (.noSize (String.ofList (trim declaration))))
  | field : Yields declaration segments field → Says declaration segments (.ok field)

/-- What a line says of a field: it opens with a mark and goes on with a declaration and segments,
all parted by semicolons. -/
inductive LineSays (line : List Char) : Except FieldFault KernelField → Prop
  | parts {declaration : List Char} {segments : List (List Char)} : mark ∈ marks →
      ';' ∉ declaration → (∀ segment ∈ segments, ';' ∉ segment) →
      trim line = lineOf mark declaration segments → Says declaration segments outcome →
      LineSays line outcome

/-- What a line says of a header field, which has to end within a record. -/
inductive HeaderSays (line : List Char) : Except FieldFault KernelField → Prop
  | fault : LineSays line (.error fault) → HeaderSays line (.error fault)
  | tooLong : LineSays line (.ok field) → KernelFormat.lastByte < field.stop →
      HeaderSays line (.error (.headerTooLong field.declaration field.stop))
  | field : LineSays line (.ok field) → field.stop ≤ KernelFormat.lastByte →
      HeaderSays line (.ok field)

section Segments
variable {declaration : List Char} {segments : List (List Char)}
  {outcome : Except FieldFault KernelField}

theorem segmentFault?_eq_some_iff (segment : List Char) (fault : FieldFault) :
    segmentFault? segment = some fault ↔ HasFault segment fault := by
  rw [segmentFault?, Option.or_eq_some_iff]
  simp only [misread?_eq_some_iff]
  constructor
  · rintro (⟨value, misgives, rfl⟩ | ⟨-, value, misgives, rfl⟩)
    · exact .offset misgives
    · exact .size misgives
  · rintro (misgives | misgives)
    · exact .inl ⟨_, misgives, rfl⟩
    · refine .inr ⟨?_, _, misgives, rfl⟩
      obtain ⟨rest, opens, -⟩ := Option.map_eq_some_iff.mp misgives.1
      have noOffset : valueOf? "offset:" segment = none := by
        rw [valueOf?, after?_eq_some_iff.mp opens]
        rfl
      rw [misread?, noOffset, Option.bind_none]

theorem getLast?_numbersOf_eq_none_iff {key : String}
    (readable : ∀ value ∈ valuesOf key segments, ∃ n ≤ 65535, Numeral value n) :
    (numbersOf key segments).getLast? = none ↔ valuesOf key segments = [] := by
  rw [getLast?_numbersOf readable, Option.bind_eq_none_iff]
  constructor
  · intro unread
    rw [← List.getLast?_eq_none_iff, Option.eq_none_iff_forall_ne_some]
    intro value last
    have word := isSome_word?_iff.mpr (readable value (List.mem_of_getLast? last))
    rw [unread value last] at word
    contradiction
  · intro none_ value last
    rw [none_] at last
    contradiction

theorem says_iff :
    Says declaration segments outcome ↔ ofSegments (trim declaration) segments = outcome := by
  have faulty := @findSome?_eq_some_iff_first _ _ _ _ segmentFault?_eq_some_iff segments
  have faultless := @findSome?_eq_none_iff_forall _ _ _ _ segmentFault?_eq_some_iff segments
  constructor
  · intro said
    unfold ofSegments
    cases said with
    | undeclared empty => rw [if_pos empty]
    | faulty declared first => rw [if_neg declared, faulty.mpr ⟨_, first⟩]
    | unplaced declared none_ unplaced =>
      have readable := faultless_iff.mp (faultless.mpr none_)
      rw [if_neg declared, faultless.mpr none_,
        (getLast?_numbersOf_eq_none_iff (readable _ (by decide))).mpr unplaced]
    | unsized declared none_ placed unsized =>
      have readable := faultless_iff.mp (faultless.mpr none_)
      obtain ⟨offset, last⟩ := Option.ne_none_iff_exists'.mp
        (mt (getLast?_numbersOf_eq_none_iff (readable "offset:" (by decide))).mp placed)
      rw [if_neg declared, faultless.mpr none_, last,
        (getLast?_numbersOf_eq_none_iff (readable _ (by decide))).mpr unsized]
    | field yields => exact ofSegments_eq_ok_iff.mpr yields
  · rintro rfl
    cases made : ofSegments (trim declaration) segments with
    | ok field => exact .field (ofSegments_eq_ok_iff.mp made)
    | error fault =>
      unfold ofSegments at made
      split at made
      · rename_i empty
        obtain rfl := Except.error.inj made
        exact .undeclared empty
      rename_i declared
      split at made
      · rename_i fault' found
        obtain rfl := Except.error.inj made
        obtain ⟨segment, first⟩ := faulty.mp found
        exact .faulty declared first
      rename_i none_
      have readable := faultless_iff.mp none_
      split at made
      · rename_i unplaced
        obtain rfl := Except.error.inj made
        exact .unplaced declared (faultless.mp none_)
          ((getLast?_numbersOf_eq_none_iff (readable _ (by decide))).mp unplaced)
      · rename_i placed unsized
        obtain rfl := Except.error.inj made
        refine .unsized declared (faultless.mp none_) ?_
          ((getLast?_numbersOf_eq_none_iff (readable _ (by decide))).mp unsized)
        rw [Ne, ← getLast?_numbersOf_eq_none_iff (readable _ (by decide)), placed]
        exact nofun
      · contradiction

end Segments

theorem lineSays_iff (line : List Char) (outcome : Except FieldFault KernelField) :
    LineSays line outcome ↔ (description? (trim line)).map described = some outcome := by
  have reads : (description? (trim line)).map described = ofLine? (trim line) := by
    rw [ofLine?, funext ofDescription_eq_described]
  rw [reads]
  constructor
  · rintro ⟨known, whole, parted, opens, said⟩
    rw [opens, ofLine?_lineOf known whole parted, says_iff.mp said]
  · intro found
    obtain ⟨description, opens, made⟩ := Option.map_eq_some_iff.mp found
    obtain ⟨mark, known, line_⟩ := description?_eq_some_iff.mp opens
    cases pieces : description.splitOn ';' with
    | nil => exact absurd pieces (List.splitOn_ne_nil _ _)
    | cons declaration segments =>
      have parts : description = [';'].intercalate (declaration :: segments) := by
        rw [← pieces, List.intercalate_splitOn]
      have free : ∀ piece ∈ declaration :: segments, ';' ∉ piece :=
        pieces ▸ fun piece member => notMem_of_mem_splitOn member
      obtain ⟨whole, parted⟩ := List.forall_mem_cons.mp free
      have opened : trim line = lineOf mark declaration segments := by rw [line_, parts, lineOf]
      rw [opened, ofLine?_lineOf known whole parted] at found
      exact .parts known whole parted opened (says_iff.mpr (Option.some.inj found))

theorem headerSays_iff (line : List Char) (outcome : Except FieldFault KernelField) :
    HeaderSays line outcome ↔
      (description? (trim line)).map KernelFormat.describedHeader = some outcome := by
  have own := lineSays_iff line
  constructor
  · intro said
    cases said with
    | fault said =>
      obtain ⟨description, opens, made⟩ := Option.map_eq_some_iff.mp ((own _).mp said)
      simp [opens, KernelFormat.describedHeader, made]
    | tooLong said long =>
      obtain ⟨description, opens, made⟩ := Option.map_eq_some_iff.mp ((own _).mp said)
      simp [opens, KernelFormat.describedHeader, made, long]
    | field said short =>
      obtain ⟨description, opens, made⟩ := Option.map_eq_some_iff.mp ((own _).mp said)
      simp [opens, KernelFormat.describedHeader, made, Nat.not_lt.mpr short]
  · intro found
    obtain ⟨description, opens, made⟩ := Option.map_eq_some_iff.mp found
    unfold KernelFormat.describedHeader at made
    have said := (own (described description)).mpr (by rw [opens, Option.map_some])
    split at made
    · rename_i fault own
      rw [own] at said
      exact made ▸ .fault said
    · rename_i field own
      rw [own] at said
      split at made
      · rename_i long
        exact made ▸ .tooLong said long
      · rename_i short
        exact made ▸ .field said (Nat.not_lt.mp short)

end KernelField

namespace KernelFormat
open Text KernelField

abbrev NumberedLine := List Char × Nat

/-- The first line of a section with a fault. Header fields have one more that they can have. -/
inductive FirstBadField (body : List NumberedLine) : NumberedLine → FieldFault → Prop
  | header :
      First (fun line fault => HeaderSays line.1 (.error fault)) (headerLines body) line fault →
      FirstBadField body line fault
  | own : (∀ line ∈ headerLines body, ∀ fault, ¬ HeaderSays line.1 (.error fault)) →
      First (fun line fault => LineSays line.1 (.error fault)) (ownLines body) line fault →
      FirstBadField body line fault

/-- Every id before the section is a numeral that fits, and no line of the section has a fault. -/
structure IsFaultless (lines : List (List Char)) : Prop where
  ids : ∀ line ∈ preambleOf lines, ∀ value, ¬ Misgives "ID:" line value
  fields : ∀ body ∈ sectionFrom? 1 lines, ∀ line fault, ¬ FirstBadField body line fault

/-- The last id before the section. -/
def LastId (lines : List (List Char)) (n : Nat) : Prop :=
  ∃ value ∈ (valuesOf "ID:" (preambleOf lines)).getLast?, Numeral value n

/-- Each field line says one of the fields, in order. -/
def EachSays (said : List Char → Except FieldFault KernelField → Prop) (body : List NumberedLine)
    (fields : List KernelField) : Prop :=
  List.Forall₂ (fun line field => said line.1 (.ok field)) (body.filter (isFieldLine ·.1)) fields

/-- What the lines of a text say as a whole. -/
inductive Reads (lines : List (List Char)) : Except FormatError KernelFormat → Prop
  | badId : First (Misgives "ID:") (preambleOf lines) line value →
      Reads lines (.error (.badId (String.ofList value)))
  | badField {line : NumberedLine} :
      (∀ line ∈ preambleOf lines, ∀ value, ¬ Misgives "ID:" line value) →
      sectionFrom? 1 lines = some body → FirstBadField body line fault →
      Reads lines (.error (.badField line.2 fault))
  | missingId : IsFaultless lines → valuesOf "ID:" (preambleOf lines) = [] →
      Reads lines (.error .missingId)
  | missingSection : IsFaultless lines → valuesOf "ID:" (preambleOf lines) ≠ [] →
      sectionFrom? 1 lines = none → Reads lines (.error .missingSection)
  | reservedId : IsFaultless lines → LastId lines 0 → sectionFrom? 1 lines = some body →
      Reads lines (.error .reservedId)
  | noFields : IsFaultless lines → LastId lines n → n ≠ 0 → sectionFrom? 1 lines = some body →
      (∀ line ∈ body, isFieldLine line.1 = false) → Reads lines (.error .noFields)
  | format {format : KernelFormat} : IsFaultless lines → LastId lines format.id.toNat →
      format.id ≠ 0 → sectionFrom? 1 lines = some body →
      (∃ line ∈ body, isFieldLine line.1 = true) →
      format.name = String.ofList ((valuesOf "name:" (preambleOf lines)).getLast?.getD []) →
      EachSays HeaderSays (headerLines body) format.header →
      EachSays LineSays (ownLines body) format.fields → Reads lines (.ok format)

/-- The error of a line that describes a field badly. -/
def badField? (read : List Char → Except FieldFault KernelField) (line : NumberedLine) :
    Option FormatError :=
  match (description? (trim line.1)).map read with
  | some (.error fault) => some (.badField line.2 fault)
  | some (.ok _) | none => none

theorem firstFault?_entriesOf (read : List Char → Except FieldFault KernelField)
    (body : List NumberedLine) :
    firstFault? (entriesOf read body) = body.findSome? (badField? read) := by
  induction body with
  | nil => rfl
  | cons line body ih =>
    rw [List.findSome?_cons, badField?]
    cases description : description? (trim line.1) with
    | none => rw [entriesOf_cons_silent description, ih, Option.map_none]
    | some text =>
      rw [entriesOf_cons_field description, Option.map_some]
      cases read text with
      | error fault => rfl
      | ok field => rw [firstFault?_cons_ok, ih]

section Entries
variable {read : List Char → Except FieldFault KernelField}
  {said : List Char → Except FieldFault KernelField → Prop}
  (same : ∀ line outcome, said line outcome ↔ (description? (trim line)).map read = some outcome)
  {body : List NumberedLine}
include same

theorem badField?_eq_some_iff (line : NumberedLine) (error : FormatError) :
    badField? read line = some error ↔
      ∃ fault, said line.1 (.error fault) ∧ .badField line.2 fault = error := by
  unfold badField?
  simp only [same]
  cases (description? (trim line.1)).map read with
  | none => simp
  | some outcome => cases outcome <;> simp

theorem firstFault?_eq_none_iff :
    firstFault? (entriesOf read body) = none ↔
      ∀ line ∈ body, ∀ fault, ¬ said line.1 (.error fault) := by
  rw [firstFault?_entriesOf, findSome?_eq_none_iff_forall (badField?_eq_some_iff same)]
  simp

theorem firstFault?_eq_some_iff {error : FormatError} :
    firstFault? (entriesOf read body) = some error ↔
      ∃ line fault, First (fun line fault => said line.1 (.error fault)) body line fault ∧
        .badField line.2 fault = error := by
  rw [firstFault?_entriesOf, findSome?_eq_some_iff_first (badField?_eq_some_iff same)]
  exact exists_congr fun line => first_made_iff

theorem fieldsOf_eq_iff (faultless : firstFault? (entriesOf read body) = none)
    {fields : List KernelField} :
    fieldsOf (entriesOf read body) = fields ↔ EachSays said body fields := by
  induction body generalizing fields with
  | nil => simp [entriesOf, fieldsOf, EachSays, eq_comm]
  | cons line body ih =>
    have own := same line.1
    unfold EachSays at ih ⊢
    cases description : description? (trim line.1) with
    | none =>
      have silent : isFieldLine line.1 = false := by simp [← isSome_description?, description]
      rw [entriesOf_cons_silent description] at faultless ⊢
      rw [ih faultless, List.filter_cons_of_neg (by simp [silent])]
    | some text =>
      have field : isFieldLine line.1 = true := by simp [← isSome_description?, description]
      rw [entriesOf_cons_field description] at faultless ⊢
      simp only [List.filter_cons, field, if_true, List.forall₂_cons_left_iff]
      cases outcome : read text with
      | error fault => simp [outcome] at faultless
      | ok kernel =>
        rw [outcome, firstFault?_cons_ok] at faultless
        have reads (other : KernelField) : said line.1 (.ok other) ↔ kernel = other := by
          simp [own, description, outcome]
        simp only [fieldsOf_cons_ok, reads, ← ih faultless]
        grind

end Entries

section Rules
variable {lines : List (List Char)} {body : List NumberedLine}

theorem firstFault?_eq_some_iff_firstBadField {error : FormatError} :
    firstFault? (entriesOf describedHeader (headerLines body) ++
        entriesOf described (ownLines body)) = some error ↔
      ∃ line fault, FirstBadField body line fault ∧ .badField line.2 fault = error := by
  rw [firstFault?_append, Option.or_eq_some_iff, firstFault?_eq_some_iff headerSays_iff,
    firstFault?_eq_none_iff headerSays_iff, firstFault?_eq_some_iff lineSays_iff]
  constructor
  · rintro (⟨line, fault, first, made⟩ | ⟨none_, line, fault, first, made⟩)
    · exact ⟨line, fault, .header first, made⟩
    · exact ⟨line, fault, .own none_ first, made⟩
  · rintro ⟨line, fault, first | ⟨none_, first⟩, made⟩
    · exact .inl ⟨line, fault, first, made⟩
    · exact .inr ⟨none_, line, fault, first, made⟩

theorem firstFault?_eq_none_iff_firstBadField :
    firstFault? (entriesOf describedHeader (headerLines body) ++
        entriesOf described (ownLines body)) = none ↔
      ∀ line fault, ¬ FirstBadField body line fault := by
  rw [Option.eq_none_iff_forall_ne_some]
  simp only [ne_eq, firstFault?_eq_some_iff_firstBadField]
  constructor
  · exact fun none_ line fault first => none_ _ ⟨line, fault, first, rfl⟩
  · rintro none_ error ⟨line, fault, first, -⟩
    exact none_ line fault first

theorem badId_eq_some_iff (line : List Char) (error : FormatError) :
    misread? "ID:" .badId line = some error ↔
      ∃ value, Misgives "ID:" line value ∧ .badId (String.ofList value) = error :=
  misread?_eq_some_iff

theorem ids_eq_none_iff :
    (preambleOf lines).findSome? (misread? "ID:" FormatError.badId) = none ↔
      ∀ line ∈ preambleOf lines, ∀ value, ¬ Misgives "ID:" line value := by
  rw [findSome?_eq_none_iff_forall badId_eq_some_iff]
  simp

theorem ids_eq_some_iff {error : FormatError} :
    (preambleOf lines).findSome? (misread? "ID:" FormatError.badId) = some error ↔
      ∃ line value, First (Misgives "ID:") (preambleOf lines) line value ∧
        .badId (String.ofList value) = error := by
  rw [findSome?_eq_some_iff_first badId_eq_some_iff]
  exact exists_congr fun line => first_made_iff

theorem isFaultless_iff :
    IsFaultless lines ↔
      (preambleOf lines).findSome? (misread? "ID:" FormatError.badId) = none ∧
        firstFault? (entriesOf describedHeader (headerLines ((sectionFrom? 1 lines).getD [])) ++
          entriesOf described (ownLines ((sectionFrom? 1 lines).getD []))) = none := by
  rw [ids_eq_none_iff, firstFault?_eq_none_iff_firstBadField]
  constructor
  · rintro ⟨ids, fields⟩
    refine ⟨ids, ?_⟩
    cases found : sectionFrom? 1 lines with
    | none => rintro line fault (⟨before, after, split, -⟩ | ⟨-, before, after, split, -⟩) <;>
        simp [headerLines, ownLines, fromFirstField] at split
    | some body => exact fields body found
  · rintro ⟨ids, fields⟩
    refine ⟨ids, fun body found => ?_⟩
    rw [Option.mem_def.mp found] at fields
    exact fields

theorem isWord_of_mem_ids
    (ids : ∀ line ∈ preambleOf lines, ∀ value, ¬ Misgives "ID:" line value) :
    ∀ value ∈ valuesOf "ID:" (preambleOf lines), IsWord value := by
  intro value member
  obtain ⟨line, own, given⟩ := List.mem_filterMap.mp member
  exact not_not.mp fun misread => ids line own value ⟨given, misread⟩

/-- The last id is a numeral that fits, and so a number of sixteen bits. -/
theorem LastId.exists_word
    (ids : ∀ value ∈ valuesOf "ID:" (preambleOf lines), IsWord value) {n : Nat}
    (last : LastId lines n) :
    ∃ id : UInt16, id.toNat = n ∧ (numbersOf "ID:" (preambleOf lines)).getLast? = some id := by
  obtain ⟨value, final, denoted⟩ := last
  obtain ⟨m, bounded, denoted'⟩ := ids value (List.mem_of_getLast? final)
  obtain rfl : m = n := Option.some.inj
    ((numeral?_eq_some_iff.mpr denoted').symm.trans (numeral?_eq_some_iff.mpr denoted))
  have same : (UInt16.ofNatLT m (Nat.lt_succ_of_le bounded)).toNat = m := UInt16.toNat_ofNatLT
  exact ⟨_, same, (mem_getLast?_numbersOf ids).mpr ⟨value, final, same.symm ▸ denoted⟩⟩

theorem faultless_entries (faultless : IsFaultless lines)
    (found : sectionFrom? 1 lines = some body) :
    firstFault? (entriesOf describedHeader (headerLines body)) = none ∧
      firstFault? (entriesOf described (ownLines body)) = none := by
  have fields := (isFaultless_iff.mp faultless).2
  rw [found, Option.getD_some, firstFault?_append, Option.or_eq_none_iff] at fields
  exact fields

theorem reading_of_isFaultless (faultless : IsFaultless lines) :
    reading lines = match (numbersOf "ID:" (preambleOf lines)).getLast?, sectionFrom? 1 lines with
      | none, _ => .error .missingId
      | some _, none => .error .missingSection
      | some id, some body =>
        if id = 0 then .error .reservedId
        else if body.all (!isFieldLine ·.1) then .error .noFields
        else .ok {
          name := (((preambleOf lines).filterMap (valueOf? "name:")).getLast?.map
            String.ofList).getD ""
          id := id.toUInt32
          fields := fieldsOf (entriesOf described (ownLines body))
          header := fieldsOf (entriesOf describedHeader (headerLines body)) } := by
  obtain ⟨ids, fields⟩ := isFaultless_iff.mp faultless
  simp only [reading, ids, fields]
  cases (numbersOf "ID:" (preambleOf lines)).getLast? with
  | none => rfl
  | some id => cases sectionFrom? 1 lines <;> rfl

theorem reading_of_reads {outcome : Except FormatError KernelFormat} (reads : Reads lines outcome) :
    reading lines = outcome := by
  cases reads with
  | badId first => simp only [reading, ids_eq_some_iff.mpr ⟨_, _, first, rfl⟩]
  | badField ids found first =>
    simp only [reading, ids_eq_none_iff.mpr ids, found, Option.getD_some,
      firstFault?_eq_some_iff_firstBadField.mpr ⟨_, _, first, rfl⟩]
  | missingId faultless none_ =>
    have ids := isWord_of_mem_ids faultless.ids
    rw [reading_of_isFaultless faultless, (getLast?_numbersOf_eq_none_iff ids).mpr none_]
  | missingSection faultless some_ absent =>
    have ids := isWord_of_mem_ids faultless.ids
    obtain ⟨id, last⟩ := Option.ne_none_iff_exists'.mp
      (mt (getLast?_numbersOf_eq_none_iff ids).mp some_)
    rw [reading_of_isFaultless faultless, last, absent]
  | reservedId faultless last found =>
    obtain ⟨id, zero, last⟩ := last.exists_word (isWord_of_mem_ids faultless.ids)
    obtain rfl : id = 0 := UInt16.toNat_inj.mp zero
    rw [reading_of_isFaultless faultless, last, found]
    rfl
  | @noFields n body faultless last positive found none_ =>
    obtain ⟨id, rfl, number⟩ := last.exists_word (isWord_of_mem_ids faultless.ids)
    have assigned : id ≠ 0 := fun zero => positive (congrArg UInt16.toNat zero)
    have empty : body.all (!isFieldLine ·.1) = true := by simpa using none_
    rw [reading_of_isFaultless faultless, number, found]
    simp only [assigned, if_false, empty, if_true]
  | @format body format faultless last assigned found some_ named header fields =>
    obtain ⟨id, same, number⟩ := last.exists_word (isWord_of_mem_ids faultless.ids)
    obtain ⟨name, formatId, own, shared⟩ := format
    obtain rfl : id.toUInt32 = formatId := UInt32.toNat_inj.mp (by simpa using same)
    have positive : id ≠ 0 := by
      rintro rfl
      exact assigned rfl
    have described_ : body.all (!isFieldLine ·.1) = false := by simpa using some_
    obtain ⟨faultlessHeader, faultlessOwn⟩ := faultless_entries faultless found
    have known : (((preambleOf lines).filterMap (valueOf? "name:")).getLast?.map
        String.ofList).getD "" = name :=
      (Option.getD_map String.ofList [] _).trans named.symm
    rw [reading_of_isFaultless faultless, number, found]
    simp only [positive, if_false, described_, Bool.false_eq_true, known,
      (fieldsOf_eq_iff headerSays_iff faultlessHeader).mpr header,
      (fieldsOf_eq_iff lineSays_iff faultlessOwn).mpr fields]

theorem reads_of_isFaultless (faultless : IsFaultless lines) : Reads lines (reading lines) := by
  have ids := isWord_of_mem_ids faultless.ids
  rw [reading_of_isFaultless faultless]
  cases number : (numbersOf "ID:" (preambleOf lines)).getLast? with
  | none => exact .missingId faultless ((getLast?_numbersOf_eq_none_iff ids).mp number)
  | some id =>
    have last : LastId lines id.toNat := (mem_getLast?_numbersOf ids).mp number
    cases found : sectionFrom? 1 lines with
    | none =>
      refine .missingSection faultless ?_ found
      rw [Ne, ← getLast?_numbersOf_eq_none_iff ids, number]
      exact nofun
    | some body =>
      obtain ⟨faultlessHeader, faultlessOwn⟩ := faultless_entries faultless found
      simp only
      split
      · rename_i zero
        obtain rfl : id = 0 := zero
        exact .reservedId faultless last found
      rename_i assigned
      split
      · rename_i none_
        have positive : id.toNat ≠ 0 := fun zero => assigned (UInt16.toNat_inj.mp zero)
        exact .noFields faultless last positive found (by simpa using none_)
      · rename_i some_
        refine .format faultless (by simpa using last) ?_ found (by simpa using some_) ?_
          ((fieldsOf_eq_iff headerSays_iff faultlessHeader).mp rfl)
          ((fieldsOf_eq_iff lineSays_iff faultlessOwn).mp rfl)
        · intro zero
          apply assigned
          apply UInt16.toNat_inj.mp
          simpa using congrArg UInt32.toNat zero
        · exact Option.getD_map String.ofList [] _

theorem reads_reading (lines : List (List Char)) : Reads lines (reading lines) := by
  cases ids : (preambleOf lines).findSome? (misread? "ID:" FormatError.badId) with
  | some error =>
    obtain ⟨line, value, first, rfl⟩ := ids_eq_some_iff.mp ids
    have reads := Reads.badId first
    rwa [← reading_of_reads reads] at reads
  | none =>
    cases fields : firstFault? (entriesOf describedHeader
        (headerLines ((sectionFrom? 1 lines).getD [])) ++
          entriesOf described (ownLines ((sectionFrom? 1 lines).getD []))) with
    | none => exact reads_of_isFaultless (isFaultless_iff.mpr ⟨ids, fields⟩)
    | some error =>
      cases found : sectionFrom? 1 lines with
      | none =>
        rw [found] at fields
        contradiction
      | some body =>
        rw [found] at fields
        obtain ⟨line, fault, first, rfl⟩ := firstFault?_eq_some_iff_firstBadField.mp fields
        have reads := Reads.badField (ids_eq_none_iff.mp ids) found first
        rwa [← reading_of_reads reads] at reads

/-- Reading the lines as a whole follows the rules, which allow nothing else. -/
theorem reads_iff {outcome : Except FormatError KernelFormat} :
    Reads lines outcome ↔ reading lines = outcome :=
  ⟨reading_of_reads, fun made => made ▸ reads_reading lines⟩

end Rules

/-- Every text has one list of lines. Parsing the text finds what these say as a whole, which is
what the rules say of them and nothing else. -/
theorem parse_reads_lines (text : String) :
    ∃ lines, (∀ other, LinesOf text.toList other ↔ other = lines) ∧
      parse text = reading lines ∧ ∀ outcome, parse text = outcome ↔ Reads lines outcome := by
  refine ⟨lines text.toList, fun _ => linesOf_iff, parse_eq text, fun outcome => ?_⟩
  rw [parse_eq, reads_iff]

end KernelFormat

end TraceLayout
