import TraceLayout.Catalogue.Declaration
import TraceLayout.Wire.Conversion

/-! Where the fields of an event lie in its records, and how each becomes a protobuf value. -/
namespace TraceLayout

structure ByteSpan where
  offset : UInt16
  size : UInt16
  deriving DecidableEq, Repr

def ByteSpan.stop (span : ByteSpan) : Nat := span.offset.toNat + span.size.toNat

/-- A declared field with its place in the record. -/
structure FieldLayout where
  name : String
  number : UInt32
  proto : ProtoType
  offset : UInt16
  size : UInt16
  kernel : KernelType
  conversion : Conversion
  deriving DecidableEq, Repr

def FieldLayout.stop (field : FieldLayout) : Nat := field.offset.toNat + field.size.toNat

/-- A declared event with the id that the kernel gives it and the layout of its records. -/
structure EventLayout where
  name : String
  group : String
  number : UInt32
  id : UInt32
  fields : List FieldLayout
  /-- The least length of a record that holds every field and the header. -/
  size : UInt16
  deriving DecidableEq, Repr

namespace EventLayout

/-- The entry of an id that no event has. -/
def blank : EventLayout := ⟨"", "", 0, 0, [], 0⟩

/-- Whether the entry is an event. No event has id zero. -/
def isPresent (event : EventLayout) : Bool := event.id != 0

/-- Whether the event can enter a table: it has a protobuf number and a kernel id. -/
def isAssigned (event : EventLayout) : Bool := event.number != 0 && event.id != 0

def field? (event : EventLayout) (name : String) : Option FieldLayout :=
  event.fields.find? (·.name == name)

end TraceLayout.EventLayout
