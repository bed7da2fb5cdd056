import Mathlib.Data.List.TakeWhile
import TraceLayout.Kernel.KernelFormat
import TraceLayout.Proofs.Kernel.FieldLine

/-! What a format text says, read as a whole: its lines fall into those before the section and those
of the section, and the section's lines into those before and after the blank line that closes the
header. Reading the lines one after another, with early errors, comes to the same. -/
namespace TraceLayout.KernelFormat
open Text KernelField

def opensSection (line : List Char) : Bool := trim line == "format:".toList

def endsSection (line : List Char) : Bool := "print fmt:".toList.isPrefixOf (trim line)

/-- Whether a line describes a field, well or badly. -/
def isFieldLine (line : List Char) : Bool := marks.any (·.toList.isPrefixOf (trim line))

def isBlankLine (line : List Char) : Bool := trim line == []

def preambleOf (lines : List (List Char)) : List (List Char) := lines.takeWhile (!opensSection ·)

/-- The lines of the section, if there is one, with their numbers in the text. -/
def sectionFrom? (first : Nat) (lines : List (List Char)) : Option (List (List Char × Nat)) :=
  match (lines.zipIdx first).dropWhile (!opensSection ·.1) with
  | [] => none
  | _ :: rest => some (rest.takeWhile (!endsSection ·.1))

def fromFirstField (body : List (List Char × Nat)) : List (List Char × Nat) :=
  body.dropWhile (!isFieldLine ·.1)

/-- The part of a section that describes the header: the first blank line after a field line closes
it. -/
def headerLines (body : List (List Char × Nat)) : List (List Char × Nat) :=
  (fromFirstField body).takeWhile (!isBlankLine ·.1)

def ownLines (body : List (List Char × Nat)) : List (List Char × Nat) :=
  (fromFirstField body).dropWhile (!isBlankLine ·.1)

/-- What the field lines among numbered lines describe, each with its number. -/
def entriesOf (read : List Char → Except FieldFault KernelField) (body : List (List Char × Nat)) :
    List (Nat × Except FieldFault KernelField) :=
  body.filterMap fun line => (description? (trim line.1)).map fun text => (line.2, read text)

/-- What a description says of a header field, which has to end within a record. -/
def describedHeader (description : List Char) : Except FieldFault KernelField :=
  match described description with
  | .error fault => .error fault
  | .ok field =>
    if lastByte < field.stop then .error (.headerTooLong field.declaration field.stop)
    else .ok field

def firstFault? (entries : List (Nat × Except FieldFault KernelField)) : Option FormatError :=
  entries.findSome? fun entry => match entry.2 with
    | .error fault => some (.badField entry.1 fault)
    | .ok _ => none

/-- The fields of the lines without a fault. -/
def fieldsOf (entries : List (Nat × Except FieldFault KernelField)) : List KernelField :=
  entries.filterMap (·.2.toOption)

/-- What the lines of a text say as a whole. Ids that are no numbers come before field lines with a
fault, and these before what is missing. -/
def reading (lines : List (List Char)) : Except FormatError KernelFormat :=
  let preamble := preambleOf lines
  let body := (sectionFrom? 1 lines).getD []
  let header := entriesOf describedHeader (headerLines body)
  let own := entriesOf described (ownLines body)
  match preamble.findSome? (misread? "ID:" .badId), firstFault? (header ++ own) with
  | some error, _ => .error error
  | none, some error => .error error
  | none, none =>
    match (numbersOf "ID:" preamble).getLast?, sectionFrom? 1 lines with
    | none, _ => .error .missingId
    | some _, none => .error .missingSection
    | some id, some _ =>
      if id = 0 then .error .reservedId
      else if body.all (!isFieldLine ·.1) then .error .noFields
      else .ok {
        name := ((preamble.filterMap (valueOf? "name:")).getLast?.map String.ofList).getD ""
        id := id.toUInt32
        fields := fieldsOf own
        header := fieldsOf header }

theorem isSome_after? (mark line : List Char) :
    (after? mark line).isSome = mark.isPrefixOf line := by
  rw [Bool.eq_iff_iff, List.isPrefixOf_iff_prefix, Option.isSome_iff_exists]
  simp only [after?_eq_some_iff, List.IsPrefix, eq_comm (a := line)]

theorem isSome_description? (line : List Char) :
    (description? (trim line)).isSome = isFieldLine line := by
  rw [Bool.eq_iff_iff, isFieldLine, List.any_eq_true, Option.isSome_iff_exists]
  simp only [description?_eq_some_iff, List.isPrefixOf_iff_prefix, List.IsPrefix]
  constructor
  · rintro ⟨description, mark, known, opens⟩
    exact ⟨mark, known, description, opens.symm⟩
  · rintro ⟨mark, known, description, opens⟩
    exact ⟨description, mark, known, opens.symm⟩

section Entries
variable {read : List Char → Except FieldFault KernelField} {line : List Char × Nat}
  {body : List (List Char × Nat)}

theorem entriesOf_cons_silent (silent : description? (trim line.1) = none) :
    entriesOf read (line :: body) = entriesOf read body := by
  simp [entriesOf, silent]

theorem entriesOf_cons_field {text : List Char} (field : description? (trim line.1) = some text) :
    entriesOf read (line :: body) = (line.2, read text) :: entriesOf read body := by
  simp [entriesOf, field]

@[simp]
theorem firstFault?_cons_error (number : Nat) (fault : FieldFault)
    (entries : List (Nat × Except FieldFault KernelField)) :
    firstFault? ((number, .error fault) :: entries) = some (.badField number fault) := rfl

@[simp]
theorem firstFault?_cons_ok (number : Nat) (field : KernelField)
    (entries : List (Nat × Except FieldFault KernelField)) :
    firstFault? ((number, .ok field) :: entries) = firstFault? entries := rfl

@[simp]
theorem fieldsOf_cons_ok (number : Nat) (field : KernelField)
    (entries : List (Nat × Except FieldFault KernelField)) :
    fieldsOf ((number, .ok field) :: entries) = field :: fieldsOf entries := rfl

theorem firstFault?_append (front back : List (Nat × Except FieldFault KernelField)) :
    firstFault? (front ++ back) = (firstFault? front).or (firstFault? back) := by
  simp [firstFault?]

theorem fieldsOf_eq_nil_iff {entries : List (Nat × Except FieldFault KernelField)}
    (faultless : firstFault? entries = none) : fieldsOf entries = [] ↔ entries = [] := by
  cases entries with
  | nil => simp [fieldsOf]
  | cons entry entries =>
    obtain ⟨number, outcome⟩ := entry
    cases outcome with
    | error fault => simp at faultless
    | ok field => simp

/-- The first field line of a section opens its header. -/
theorem headerEntries_eq_nil_iff {body : List (List Char × Nat)} :
    entriesOf describedHeader (headerLines body) = [] ↔ fromFirstField body = [] := by
  constructor
  · intro none_
    cases from_ : fromFirstField body with
    | nil => rfl
    | cons line rest =>
      have field : isFieldLine line.1 = true := by
        have head := List.head?_dropWhile_not (!isFieldLine ·.1) body
        rw [← fromFirstField, from_] at head
        simpa using head
      rw [← isSome_description?] at field
      obtain ⟨text, description⟩ := Option.isSome_iff_exists.mp field
      have nonblank : isBlankLine line.1 = false := by
        apply Bool.eq_false_iff.mpr
        intro blank
        have empty : trim line.1 = [] := by simpa [isBlankLine] using blank
        rw [empty] at description
        contradiction
      rw [headerLines, from_, List.takeWhile_cons] at none_
      simp [nonblank, entriesOf_cons_field description] at none_
  · intro empty
    simp [headerLines, empty, entriesOf]

/-- The event's own fields begin after a blank line that follows a field line. -/
theorem blank_of_ownLines {body rest : List (List Char × Nat)} {line : List Char × Nat}
    (own : ownLines body = line :: rest) : trim line.1 = [] ∧ fromFirstField body ≠ [] := by
  constructor
  · have head := List.head?_dropWhile_not (!isBlankLine ·.1) (fromFirstField body)
    rw [← ownLines, own] at head
    simpa [isBlankLine] using head
  · intro empty
    simp [ownLines, empty] at own

/-- A section without faults has no fields exactly if no line of it describes one. -/
theorem fields_eq_nil_iff {body : List (List Char × Nat)}
    (faultless : firstFault? (entriesOf describedHeader (headerLines body) ++
      entriesOf described (ownLines body)) = none) :
    fieldsOf (entriesOf described (ownLines body)) = [] ∧
        fieldsOf (entriesOf describedHeader (headerLines body)) = [] ↔
      body.all (!isFieldLine ·.1) = true := by
  rw [firstFault?_append, Option.or_eq_none_iff] at faultless
  rw [fieldsOf_eq_nil_iff faultless.1, headerEntries_eq_nil_iff, List.all_eq_true,
    ← List.dropWhile_eq_nil_iff, ← fromFirstField]
  constructor
  · exact fun none_ => none_.2
  · intro none_
    exact ⟨by simp [ownLines, none_, entriesOf, fieldsOf], none_⟩

end Entries

namespace Section

theorem read_silent (seen : Section) {line : List Char} (written : line ≠ [])
    (silent : description? line = none) : seen.read line = .ok seen := by
  simp [read, written, silent]

theorem read_field (seen : Section) {line text : List Char}
    (field : description? line = some text) :
    seen.read line = match described text with
      | .ok field => seen.add field
      | .error fault => .error fault := by
  have written : line ≠ [] := by
    rintro rfl
    contradiction
  cases made : described text with
  | error fault => simp [read, written, field, ofDescription_eq_described, made]
  | ok kernel => simp [read, written, field, ofDescription_eq_described, made]

def readBody (seen : Section) : List (List Char × Nat) → Except FormatError Section
  | [] => .ok seen
  | line :: body =>
    match seen.read (trim line.1) with
    | .ok seen => readBody seen body
    | .error fault => .error (.badField line.2 fault)

theorem readAll_eq_readBody (seen : Section) (first : Nat) (lines : List (List Char)) :
    seen.readAll first lines =
      seen.readBody ((lines.zipIdx first).takeWhile (!endsSection ·.1)) := by
  induction lines generalizing seen first with
  | nil => rfl
  | cons line lines ih =>
    rw [readAll, List.zipIdx_cons, List.takeWhile_cons]
    by_cases ends : endsSection line
    · have found : (after? "print fmt:".toList (trim line)).isSome = true := by
        rwa [isSome_after?]
      rw [if_pos found]
      simp [ends, readBody]
    · have absent : ¬ (after? "print fmt:".toList (trim line)).isSome = true := by
        rwa [isSome_after?]
      rw [if_neg absent]
      simp only [ends, Bool.not_false, if_true, readBody]
      cases seen.read (trim line) with
      | error fault => rfl
      | ok seen => exact ih seen (first + 1)

theorem readBody_append (seen : Section) (front back : List (List Char × Nat)) :
    seen.readBody (front ++ back) = match seen.readBody front with
      | .ok seen => seen.readBody back
      | .error error => .error error := by
  induction front generalizing seen with
  | nil => rfl
  | cons line front ih =>
    simp only [List.cons_append, readBody]
    cases seen.read (trim line.1) with
    | error fault => rfl
    | ok seen => exact ih seen

/-- Lines that describe no field leave a section without header as it is. -/
theorem readBody_of_noField {body : List (List Char × Nat)}
    (noField : ∀ line ∈ body, isFieldLine line.1 = false) : readBody {} body = .ok {} := by
  induction body with
  | nil => rfl
  | cons line body ih =>
    obtain ⟨here, noField⟩ := List.forall_mem_cons.mp noField
    have silent : description? (trim line.1) = none := by simpa [← isSome_description?] using here
    have same : read {} (trim line.1) = .ok {} := by
      by_cases blank : trim line.1 = []
      · simp [read, blank, close]
      · simp [read, blank, silent]
    simp only [readBody, same]
    exact ih noField

theorem readBody_of_open {seen : Section} (open_ : seen.closed = false)
    {body : List (List Char × Nat)} (written : ∀ line ∈ body, isBlankLine line.1 = false) :
    seen.readBody body = match firstFault? (entriesOf describedHeader body) with
      | some error => .error error
      | none => .ok { seen with
          header := seen.header ++ fieldsOf (entriesOf describedHeader body) } := by
  induction body generalizing seen with
  | nil => simp [readBody, entriesOf, firstFault?, fieldsOf]
  | cons line body ih =>
    obtain ⟨here, written⟩ := List.forall_mem_cons.mp written
    have nonblank : trim line.1 ≠ [] := by simpa [isBlankLine] using here
    cases description : description? (trim line.1) with
    | none =>
      rw [readBody, read_silent seen nonblank description, entriesOf_cons_silent description]
      exact ih open_ written
    | some text =>
      rw [readBody, read_field seen description, entriesOf_cons_field description]
      cases field : described text with
      | error fault => simp [describedHeader, field]
      | ok kernel =>
        by_cases long : lastByte < kernel.stop
        · simp [describedHeader, field, long, add, open_]
        · simp only [add, open_, long, if_false, Bool.false_eq_true]
          rw [ih rfl written]
          simp [describedHeader, field, long]

theorem readBody_of_closed (seen : Section) (closed : seen.closed = true)
    (body : List (List Char × Nat)) :
    seen.readBody body = match firstFault? (entriesOf described body) with
      | some error => .error error
      | none => .ok { seen with
          fields := seen.fields ++ fieldsOf (entriesOf described body) } := by
  induction body generalizing seen with
  | nil => simp [readBody, entriesOf, firstFault?, fieldsOf]
  | cons line body ih =>
    cases description : description? (trim line.1) with
    | none =>
      have same : seen.read (trim line.1) = .ok seen := by
        by_cases blank : trim line.1 = []
        · have still : seen.close = seen := by
            cases seen
            simp_all [close]
          simp [read, blank, still]
        · exact read_silent seen blank description
      rw [readBody, same, entriesOf_cons_silent description]
      exact ih seen closed
    | some text =>
      rw [readBody, read_field seen description, entriesOf_cons_field description]
      cases field : described text with
      | error fault => simp
      | ok kernel =>
        simp only [add, if_pos closed]
        rw [ih { seen with fields := seen.fields ++ [kernel] } closed]
        simp

theorem readBody_eq (body : List (List Char × Nat)) :
    ∃ closed, readBody {} body =
      match firstFault? (entriesOf describedHeader (headerLines body) ++
        entriesOf described (ownLines body)) with
      | some error => .error error
      | none => .ok ⟨fieldsOf (entriesOf describedHeader (headerLines body)),
          fieldsOf (entriesOf described (ownLines body)), closed⟩ := by
  have noField : ∀ line ∈ body.takeWhile (!isFieldLine ·.1), isFieldLine line.1 = false := by
    intro line member
    simpa using List.mem_takeWhile_imp member
  have written : ∀ line ∈ headerLines body, isBlankLine line.1 = false := by
    intro line member
    simpa using List.mem_takeWhile_imp member
  have parts : body.takeWhile (!isFieldLine ·.1) ++ (headerLines body ++ ownLines body) = body := by
    rw [headerLines, ownLines, List.takeWhile_append_dropWhile, fromFirstField,
      List.takeWhile_append_dropWhile]
  have start := readBody_append {} (body.takeWhile (!isFieldLine ·.1))
    (headerLines body ++ ownLines body)
  simp only [parts, readBody_of_noField noField] at start
  rw [start, readBody_append, readBody_of_open rfl written, firstFault?_append]
  cases fault : firstFault? (entriesOf describedHeader (headerLines body)) with
  | some error => exact ⟨false, rfl⟩
  | none =>
    cases own : ownLines body with
    | nil => exact ⟨false, by simp [readBody, entriesOf, firstFault?, fieldsOf]⟩
    | cons line rest =>
      obtain ⟨blank, begun⟩ := blank_of_ownLines own
      have nonempty : fieldsOf (entriesOf describedHeader (headerLines body)) ≠ [] := by
        rwa [Ne, fieldsOf_eq_nil_iff fault, headerEntries_eq_nil_iff]
      have closes : (fieldsOf (entriesOf describedHeader (headerLines body))).isEmpty = false := by
        simpa using nonempty
      have silent : description? (trim line.1) = none := by rw [blank]; rfl
      refine ⟨true, ?_⟩
      simp only [List.nil_append, readBody, read, blank, if_true]
      rw [readBody_of_closed _ (by simp [close, nonempty]), entriesOf_cons_silent silent]
      simp [close, closes]

end Section

namespace Preamble

def extend (seen : Preamble) (line : List Char) : Preamble where
  name := ((valueOf? "name:" line).map String.ofList).getD seen.name
  id? := ((valueOf? "ID:" line).bind word?).or seen.id?

theorem read_eq (seen : Preamble) (line : List Char) :
    seen.read (trim line) = match misread? "ID:" FormatError.badId line with
      | some error => .error error
      | none => .ok (seen.extend line) := by
  unfold read misread? extend valueOf?
  cases name : after? "name:".toList (trim line) with
  | some value =>
    have opens := after?_eq_some_iff.mp name
    have noId : after? "ID:".toList (trim line) = none := by rw [opens]; rfl
    simp only [noId]
    rfl
  | none =>
    cases after? "ID:".toList (trim line) with
    | none => rfl
    | some value =>
      simp only [Option.map_some, Option.bind_some]
      cases word? (trim value) <;> rfl

/-- The preamble after all lines: the last name and id, or what was there before. -/
def extendAll (seen : Preamble) (lines : List (List Char)) : Preamble where
  name := ((lines.filterMap (valueOf? "name:")).getLast?.map String.ofList).getD seen.name
  id? := (numbersOf "ID:" lines).getLast?.or seen.id?

theorem extendAll_extend (seen : Preamble) (line : List Char) (lines : List (List Char)) :
    (seen.extend line).extendAll lines = seen.extendAll (line :: lines) := by
  simp only [extendAll, extend, numbersOf_cons_or, valuesOf_cons_getD]

end Preamble

theorem readLines_eq (seen : Preamble) (first : Nat) (lines : List (List Char)) :
    readLines seen first lines =
      match (preambleOf lines).findSome? (misread? "ID:" .badId) with
      | some error => .error error
      | none => match sectionFrom? first lines with
        | none => .ok (seen.extendAll (preambleOf lines), none)
        | some body => (Section.readBody {} body).map fun fields =>
            (seen.extendAll (preambleOf lines), some fields) := by
  induction lines generalizing seen first with
  | nil => rfl
  | cons line lines ih =>
    by_cases opens : opensSection line
    · have same : trim line = "format:".toList := by
        simpa only [opensSection, beq_iff_eq] using opens
      rw [readLines, if_pos same, Section.readAll_eq_readBody]
      simp [preambleOf, sectionFrom?, opens]
      rfl
    · have other : trim line ≠ "format:".toList := by
        simpa only [opensSection, beq_iff_eq] using opens
      rw [readLines, if_neg other, Preamble.read_eq]
      have preamble : preambleOf (line :: lines) = line :: preambleOf lines := by
        simp [preambleOf, opens]
      have body : sectionFrom? first (line :: lines) = sectionFrom? (first + 1) lines := by
        simp [sectionFrom?, opens]
      rw [preamble, body, List.findSome?_cons]
      cases misread? "ID:" FormatError.badId line with
      | some error => rfl
      | none =>
        simp only [ih, Preamble.extendAll_extend]

theorem parse_eq (text : String) : parse text = reading (lines text.toList) := by
  rw [parse, readLines_eq, reading]
  cases (preambleOf (lines text.toList)).findSome? (misread? "ID:" FormatError.badId) with
  | some error => rfl
  | none =>
    cases sectionFrom? 1 (lines text.toList) with
    | none =>
      simp only [Preamble.extendAll, assemble, Option.or_none]
      cases (numbersOf "ID:" (preambleOf (lines text.toList))).getLast? <;> rfl
    | some body =>
      obtain ⟨closed, read⟩ := Section.readBody_eq body
      simp only [Option.getD_some, read]
      cases fault : firstFault? (entriesOf describedHeader (headerLines body) ++
          entriesOf described (ownLines body)) with
      | some error => rfl
      | none =>
        simp only [Except.map, assemble, Preamble.extendAll, Option.or_none]
        cases (numbersOf "ID:" (preambleOf (lines text.toList))).getLast? with
        | none => rfl
        | some id => simp only [fields_eq_nil_iff fault]

end TraceLayout.KernelFormat
