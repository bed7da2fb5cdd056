import TraceLayout.Wire.ProtoType

/-! Declared events: which kernel field lands in which protobuf field. A catalogue of declarations
is sound if every name and group is written, every protobuf field number is positive, and no event
is declared twice. -/
namespace TraceLayout

/-- A kernel field, by name, and the protobuf field that it lands in. -/
structure DeclaredField where
  name : String
  number : UInt32
  type : ProtoType
  deriving DecidableEq, Repr

/-- A kernel event, by group and name, and the protobuf field of its message in a bundle. -/
structure DeclaredEvent where
  name : String
  /-- The tracefs directory of the event. -/
  group : String
  number : UInt32
  fields : List DeclaredField
  deriving DecidableEq, Repr

inductive DeclarationError
  | unnamedEvent (group : String)
  | ungroupedEvent (event : String)
  | unnumberedEvent (event : String)
  | unnamedField (event : String)
  | unnumberedField (event field : String)
  | repeatedEvent (event : String)
  deriving DecidableEq, Repr

def DeclarationError.message : DeclarationError → String
  | .unnamedEvent group => s!"event in group '{group}' has an empty name"
  | .ungroupedEvent event => s!"event '{event}' has an empty group"
  | .unnumberedEvent event => s!"event '{event}' has proto field id 0"
  | .unnamedField event => s!"event '{event}' declares a field with an empty name"
  | .unnumberedField event field => s!"field '{field}' of event '{event}' has proto field id 0"
  | .repeatedEvent event => s!"event '{event}' is declared more than once"

namespace DeclaredEvent

/-- Group and name with a slash between them, which is the event's place in tracefs. -/
def path (event : DeclaredEvent) : String := event.group ++ "/" ++ event.name

def fieldDefect? (event : String) : List DeclaredField → Option DeclarationError
  | [] => none
  | field :: fields =>
    if field.name = "" then some (.unnamedField event)
    else if field.number = 0 then some (.unnumberedField event field.name)
    else fieldDefect? event fields

/-- The first defect of a declaration by itself, if there is one. -/
def defect? (event : DeclaredEvent) : Option DeclarationError :=
  if event.name = "" then some (.unnamedEvent event.group)
  else if event.group = "" then some (.ungroupedEvent event.name)
  else if event.number = 0 then some (.unnumberedEvent event.name)
  else fieldDefect? event.name event.fields

end DeclaredEvent

namespace Catalogue

/-- The first defect of a catalogue, some of whose names are already `taken`. A declaration's own
defect comes before the repetition of its name. -/
def defectAfter? (taken : List String) : List DeclaredEvent → Option DeclarationError
  | [] => none
  | event :: events =>
    match event.defect? with
    | some defect => some defect
    | none =>
      if event.name ∈ taken then some (.repeatedEvent event.name)
      else defectAfter? (event.name :: taken) events

/-- The first defect of a catalogue, if there is one. -/
def defect? (events : List DeclaredEvent) : Option DeclarationError := defectAfter? [] events

end TraceLayout.Catalogue
