import TraceLayout.Layout.EventLayout
import TraceLayout.Layout.NameIndex

/-! The table of event layouts. It is dense by kernel id, so that a decoder finds the layout of a
record by indexing alone, and an index finds an event by name. -/
namespace TraceLayout

structure Table where
  /-- The event of each id up to the largest one. Ids without an event hold the blank entry. -/
  slots : Array EventLayout
  /-- The slot of each event. -/
  names : NameIndex
  /-- The record header that all events share. -/
  header : List ByteSpan
  deriving DecidableEq, Repr

namespace Table

/-- The largest id of some events, or zero without any. -/
def largestIdOf (events : List EventLayout) : Nat :=
  events.foldl (fun largest event => max largest event.id.toNat) 0

def put (table : Table) (event : EventLayout) : Table :=
  { table with
    slots := table.slots.setIfInBounds event.id.toNat event
    names := table.names.insert event.name event.id.toNat }

/-- The table without events whose slots reach up to an id. -/
def vacant (largest : Nat) (header : List ByteSpan) : Table :=
  ⟨Array.replicate (largest + 1) .blank, .empty, header⟩

/-- The table of events, which have distinct ids other than zero. -/
def ofEvents (events : List EventLayout) (header : List ByteSpan) : Table :=
  events.foldl put (vacant (largestIdOf events) header)

def getId? (table : Table) (id : UInt32) : Option EventLayout :=
  table.slots[id.toNat]?.filter (·.isPresent)

def getName? (table : Table) (name : String) : Option EventLayout :=
  (table.names.get? name).bind fun slot => table.slots[slot]?

/-- The largest id in the table, or zero if there are no events. -/
def largestId (table : Table) : Nat := table.slots.size - 1

def events (table : Table) : List EventLayout := table.slots.toList.filter (·.isPresent)

def size (table : Table) : Nat := table.names.size

def isEmpty (table : Table) : Bool := table.size == 0

end TraceLayout.Table
