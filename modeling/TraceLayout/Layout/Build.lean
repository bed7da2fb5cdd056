import TraceLayout.Kernel.KernelFormat
import TraceLayout.Layout.FormatSource
import TraceLayout.Layout.Table

/-! Building a table: declared events are resolved one after another against a source of format
texts. What does not resolve is left out and reported. The header of the first event that resolves
is shared by all. -/
namespace TraceLayout

inductive FieldOutcome
  | kept (field : FieldLayout)
  | missing
  | unsupported (kernel : KernelField)
  | tooLong (stop : Nat)
  deriving DecidableEq, Repr

namespace FieldOutcome

/-- Looks a declared field up among the fields of the event and chooses its conversion. -/
def find (format : KernelFormat) (field : DeclaredField) : FieldOutcome :=
  match format.field? field.name with
  | none => .missing
  | some kernel =>
    match kernel.type? with
    | none => .unsupported kernel
    | some type =>
      match Conversion.between? type field.type with
      | none => .unsupported kernel
      | some conversion =>
        if KernelFormat.lastByte < kernel.stop then .tooLong kernel.stop
        else .kept {
          name := field.name
          number := field.number
          proto := field.type
          offset := kernel.offset
          size := kernel.size
          kernel := type
          conversion }

def layout? : FieldOutcome → Option FieldLayout
  | .kept field => some field
  | .missing | .unsupported _ | .tooLong _ => none

def diagnostic? (event : String) (field : DeclaredField) : FieldOutcome → Option Diagnostic
  | .kept _ => none
  | .missing => some (.fieldMissing event field.name)
  | .unsupported kernel => some (.fieldUnsupported event field.name kernel.type? field.type)
  | .tooLong stop => some (.fieldTooLong event field.name stop)

/-- What is logged of a field of an event. A field that is too long is reported only. -/
def notice? (event : String) (field : DeclaredField) : FieldOutcome → Option Notice
  | .missing => some (.fieldMissing event field.name)
  | .unsupported kernel => some (.fieldUnsupported event field.name kernel.declaration field.type)
  | .kept _ | .tooLong _ => none

end FieldOutcome

def KernelFormat.headerSpans (format : KernelFormat) : List ByteSpan :=
  format.header.map fun field => ⟨field.offset, field.size⟩

def largestStop (stops : List Nat) : Nat := stops.foldl max 0

structure Progress where
  /-- The events that have resolved, in the order of their declarations. -/
  events : List EventLayout := []
  /-- The header of the first event that resolved. -/
  header? : Option (List ByteSpan) := none
  diagnostics : List Diagnostic := []
  notices : List Notice := []
  deriving DecidableEq, Repr

namespace Progress

def report (seen : Progress) (diagnostic : Diagnostic) (notice : Notice) : Progress :=
  { seen with
    diagnostics := seen.diagnostics ++ [diagnostic]
    notices := seen.notices ++ [notice] }

/-- The layout of a declared event, given its format and the header that is shared. -/
def layout (event : DeclaredEvent) (format : KernelFormat) (header : List ByteSpan) : EventLayout :=
  let fields := event.fields.filterMap fun field => (FieldOutcome.find format field).layout?
  let stop := max (largestStop (fields.map (·.stop))) (largestStop (header.map (·.stop)))
  ⟨event.name, event.group, event.number, format.id, fields, UInt16.ofNat stop⟩

/-- Adds an event with a format of its own. The first event's header becomes the shared one, and
with `verify` an event that has another header is reported. -/
def resolve (verify : Bool) (seen : Progress) (event : DeclaredEvent) (format : KernelFormat) :
    Progress :=
  let header := seen.header?.getD format.headerSpans
  let differs := verify && header != format.headerSpans
  let outcomes := event.fields.map fun field => (field, FieldOutcome.find format field)
  { events := seen.events ++ [layout event format header]
    header? := some header
    diagnostics := seen.diagnostics
      ++ outcomes.filterMap (fun (field, outcome) => outcome.diagnostic? event.name field)
      ++ (if differs then [.headerDiffers event.name] else [])
    notices := seen.notices
      ++ outcomes.filterMap (fun (field, outcome) => outcome.notice? event.name field)
      ++ (if differs then [.headerDiffers event.name] else []) }

/-- Resolves one declared event. An event needs a text that is not empty, a format in it, and an id
that no earlier event has. -/
def step (source : FormatSource) (verify : Bool) (seen : Progress) (event : DeclaredEvent) :
    Progress :=
  let reply := source event.group event.name
  let seen := { seen with notices := seen.notices ++ reply.notices }
  match reply.text?.filter (· != "") with
  | none => seen.report (.unavailable event.group event.name) (.unavailable event.path)
  | some text =>
    match KernelFormat.parse text with
    | .error error =>
      seen.report (.unparsable event.group event.name error) (.unparsable event.path error)
    | .ok format =>
      match seen.events.find? (·.id == format.id) with
      | some existing =>
        seen.report (.idTaken event.name format.id existing.name)
          (.idTaken event.path format.id existing.name)
      | none => seen.resolve verify event format

def published (seen : Progress) : List EventLayout := seen.events.filter (·.isAssigned)

end Progress

/-- A finished table, with the reasons for all that is missing from it and the log of its building.
-/
structure Build where
  table : Table
  diagnostics : List Diagnostic
  notices : List Notice
  deriving DecidableEq, Repr

namespace Build

/-- Resolves declared events in order, whether or not the declarations are sound. -/
def resolveAll (source : FormatSource) (verify : Bool) (events : List DeclaredEvent) : Progress :=
  events.foldl (Progress.step source verify) {}

/-- The outcome of a build that has resolved some of `declared` events. -/
def ofProgress (declared : Nat) (seen : Progress) : Build where
  table := Table.ofEvents seen.published (seen.header?.getD [])
  diagnostics := seen.diagnostics
  notices := seen.notices ++ [.tableBuilt seen.published.length declared seen.diagnostics.length]

/-- Builds the table of declared events. A catalogue with a defect is refused before anything is
read. -/
def run (source : FormatSource) (events : List DeclaredEvent) (verify : Bool) :
    Except DeclarationError Build :=
  match Catalogue.defect? events with
  | some defect => .error defect
  | none => .ok (ofProgress events.length (resolveAll source verify events))

def refusal (defect : DeclarationError) : String :=
  s!"malformed ftrace event catalogue: {defect.message}"

end TraceLayout.Build
