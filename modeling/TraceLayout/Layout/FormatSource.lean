import TraceLayout.Log.Notice

/-! Sources of format texts. A build asks one for the text of every declared event. -/
namespace TraceLayout

/-- What a source answers for an event: its format text if the kernel has one, and what was worth
noting. -/
structure FormatReply where
  text? : Option String
  notices : List Notice := []
  deriving DecidableEq, Repr

/-- The answers of a source, by group and name. -/
abbrev FormatSource := (group name : String) → FormatReply

structure FormatStore where
  entries : List ((String × String) × String) := []
  deriving DecidableEq, Repr

namespace FormatStore

/-- Holds a text for an event in place of any earlier one. -/
def insert (store : FormatStore) (group name text : String) : FormatStore :=
  ⟨((group, name), text) :: store.entries⟩

def get? (store : FormatStore) (group name : String) : Option String :=
  store.entries.lookup (group, name)

def source (store : FormatStore) : FormatSource := fun group name => ⟨store.get? group name, []⟩

end TraceLayout.FormatStore
