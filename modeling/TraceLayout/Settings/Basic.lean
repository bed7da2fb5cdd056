import TraceLayout.Catalogue.Declaration
import TraceLayout.Text.OsText

/-! What a build is asked to do: where tracefs lies, which events to resolve, and whether to compare
record headers. A filter names one event by group and name. -/
namespace TraceLayout

structure Settings where
  root? : Option OsText := none
  /-- The events to resolve, each as a group and a name with a slash between them. None means all.
  -/
  filters : List String := []
  /-- Whether an event whose header is not the shared one is reported. -/
  verifyHeaders : Bool := true
  deriving DecidableEq, Repr

/-- A filter that does not name one event. -/
structure FilterError where
  filter : String
  deriving DecidableEq, Repr

def FilterError.message (error : FilterError) : String :=
  s!"Invalid event filter '{error.filter}': expected GROUP/NAME"

namespace Settings

/-- Whether a filter is a group and a name, neither of them empty and neither with a slash. -/
def isFilter (filter : String) : Bool :=
  match filter.toList.splitOn '/' with
  | [group, name] => group != [] && name != []
  | _ => false

def filterError? (settings : Settings) : Option FilterError :=
  (settings.filters.find? (!isFilter ·)).map .mk

/-- The declared events that the filters name, in the order of the catalogue. -/
def select (settings : Settings) (events : List DeclaredEvent) : List DeclaredEvent :=
  if settings.filters = [] then events
  else events.filter fun event => settings.filters.any (· == event.path)

end TraceLayout.Settings
