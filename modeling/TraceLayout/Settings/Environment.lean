import TraceLayout.Settings.Basic
import TraceLayout.Text.Blank

/-! Settings that environment variables choose. The root may be any path, and of the other variables
one whose value is not UTF-8 counts as unset. -/
namespace TraceLayout
open Text

/-- Environment variables and what they are set to. -/
abbrev Environment := List (String × OsText)

def Environment.text? (environment : Environment) (name : String) : Option String :=
  (environment.lookup name).bind (·.text?)

namespace Settings

def rootVariable : String := "FTRACE_PROTO_TRACEFS"

def filtersVariable : String := "FTRACE_PROTO_EVENTS"

def verifyVariable : String := "FTRACE_PROTO_VERIFY_COMMON"

/-- The filters in a list with commas between them. White space around a filter and empty filters
say nothing. -/
def filtersOf (list : String) : List String :=
  (((list.toList.splitOn ',').map trim).filter (· != [])).map String.ofList

def declining : List String := ["0", "false", "no"]

/-- Whether a word asks for the comparison of headers, as all but the declining words do. -/
def asksToVerify (word : String) : Bool :=
  !declining.contains (String.ofList (trim word.toList))

def ofEnvironment (environment : Environment) : Settings where
  root? := environment.lookup rootVariable
  filters := ((environment.text? filtersVariable).map filtersOf).getD []
  verifyHeaders := ((environment.text? verifyVariable).map asksToVerify).getD true

end TraceLayout.Settings
