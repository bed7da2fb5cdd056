import TraceLayout.Kernel.KernelField

/-! The format text by which tracefs describes an event: its name, its id, and after the line
`format:` the fields of its records. The fields before the first blank line form the header that all
events share. -/
namespace TraceLayout

/-- The layout of an event's records as the kernel reports it. -/
structure KernelFormat where
  name : String
  id : UInt32
  /-- The event's own fields, in the order of the text. -/
  fields : List KernelField
  header : List KernelField
  deriving DecidableEq, Repr

namespace KernelFormat
open Text

def field? (format : KernelFormat) (name : String) : Option KernelField :=
  format.fields.find? (·.name == name)

/-- The last byte offset that a record can have, and so the bound on where a field may end. -/
def lastByte : Nat := 65535

structure Section where
  header : List KernelField := []
  fields : List KernelField := []
  closed : Bool := false
  deriving DecidableEq, Repr

/-- A blank line closes the header, unless the header is still empty. -/
def Section.close (seen : Section) : Section :=
  { seen with closed := seen.closed || !seen.header.isEmpty }

/-- Adds a field to the part of the section that is open. A header field must end within a record.
-/
def Section.add (seen : Section) (field : KernelField) : Except FieldFault Section :=
  if seen.closed then .ok { seen with fields := seen.fields ++ [field] }
  else if lastByte < field.stop then .error (.headerTooLong field.declaration field.stop)
  else .ok { seen with header := seen.header ++ [field] }

def Section.read (seen : Section) (line : List Char) : Except FieldFault Section :=
  if line = [] then .ok seen.close
  else match KernelField.description? line with
    | none => .ok seen
    | some description =>
      match KernelField.ofDescription description with
      | .ok field => seen.add field
      | .error fault => .error fault

/-- Reads the lines of the section, the first of which has number `line`, up to the print format. -/
def Section.readAll (seen : Section) (line : Nat) : List (List Char) → Except FormatError Section
  | [] => .ok seen
  | text :: texts =>
    let text := trim text
    if (after? "print fmt:".toList text).isSome then .ok seen
    else match seen.read text with
      | .ok seen => readAll seen (line + 1) texts
      | .error fault => .error (.badField line fault)

/-- What the lines before the section have said so far. -/
structure Preamble where
  name : String := ""
  id? : Option UInt16 := none
  deriving DecidableEq, Repr

/-- Reads one trimmed line before the section. Later names and ids replace earlier ones. -/
def Preamble.read (seen : Preamble) (line : List Char) : Except FormatError Preamble :=
  match after? "name:".toList line, after? "ID:".toList line with
  | some name, _ => .ok { seen with name := String.ofList (trim name) }
  | none, some value =>
    match word? (trim value) with
    | some id => .ok { seen with id? := some id }
    | none => .error (.badId (String.ofList (trim value)))
  | none, none => .ok seen

/-- Reads the lines of a text, the first of which has number `line`: those before the section, and
the section itself if there is one. -/
def readLines (seen : Preamble) (line : Nat) :
    List (List Char) → Except FormatError (Preamble × Option Section)
  | [] => .ok (seen, none)
  | text :: texts =>
    let text := trim text
    if text = "format:".toList then
      (Section.readAll {} (line + 1) texts).map fun fields => (seen, some fields)
    else match seen.read text with
      | .ok seen => readLines seen (line + 1) texts
      | .error error => .error error

/-- The format that a preamble and a section make up: an id that is not zero, and some field. -/
def assemble (seen : Preamble) (fields? : Option Section) : Except FormatError KernelFormat :=
  match seen.id?, fields? with
  | none, _ => .error .missingId
  | some _, none => .error .missingSection
  | some id, some fields =>
    if id = 0 then .error .reservedId
    else if fields.fields = [] ∧ fields.header = [] then .error .noFields
    else .ok ⟨seen.name, id.toUInt32, fields.fields, fields.header⟩

def parse (text : String) : Except FormatError KernelFormat :=
  match readLines {} 1 (lines text.toList) with
  | .ok (seen, fields?) => assemble seen fields?
  | .error error => .error error

end TraceLayout.KernelFormat
