import TraceLayout.Files.FileError
import TraceLayout.Layout.Diagnostic
import TraceLayout.Settings.Shown

/-! What a build reports while it runs. A notice has a level, a channel by which filters choose it,
and a text. -/
namespace TraceLayout

/-- How grave a notice is. -/
inductive Level
  | debug | info | warn
  deriving DecidableEq, Repr

def Level.text : Level → String
  | .debug => "DEBUG"
  | .info => "INFO"
  | .warn => "WARN"

/-- A step of a build that is worth a line in the log. -/
inductive Notice
  /-- A group or name that could leave the events directory. -/
  | pathRejected (group name : String)
  | fileUnreadable (path : OsText) (error : FileError)
  | readDenied (path : OsText)
  | unavailable (path : String)
  | unparsable (path : String) (error : FormatError)
  | idTaken (path : String) (id : UInt32) (existing : String)
  | fieldMissing (event field : String)
  | fieldUnsupported (event field declaration : String) (proto : ProtoType)
  | headerDiffers (event : String)
  | tableBuilt (resolved declared diagnostics : Nat)
  | resolving (events : Nat) (root : OsText)
  | settingsChosen (settings : Settings)
  deriving DecidableEq, Repr

namespace Notice

def level : Notice → Level
  | .pathRejected .. | .fileUnreadable .. | .readDenied .. | .unavailable .. | .fieldMissing ..
  | .fieldUnsupported .. | .settingsChosen .. => .debug
  | .resolving .. | .tableBuilt .. => .info
  | .unparsable .. | .idTaken .. | .headerDiffers .. => .warn

def text : Notice → String
  | .pathRejected group name => s!"Rejected event path {group}/{name}"
  | .fileUnreadable path error => s!"Cannot read {path.shown}: {error.message}"
  | .readDenied path => s!"Permission denied reading {path.shown}. Try running with sudo."
  | .unavailable path => s!"No kernel format for {path}"
  | .unparsable path error => s!"Cannot parse kernel format for {path}: {error.message}"
  | .idTaken path id existing => s!"{path} resolved to kernel id {id} already used by {existing}"
  | .fieldMissing event field => s!"{event}.{field} not reported by the kernel"
  | .fieldUnsupported event field declaration proto =>
    s!"{event}.{field}: no translation from '{declaration}' to {proto.text}"
  | .headerDiffers event => s!"{event} has a different record header than the first event"
  | .tableBuilt resolved declared diagnostics =>
    s!"Translation table built: {resolved}/{declared} events resolved, {diagnostics} diagnostics"
  | .resolving events root => s!"Resolving {events} events against {root.shown}"
  | .settingsChosen settings => s!"Build config: {settings.shown}"

/-- Level and text, as a log without time stamps shows them. -/
def line (notice : Notice) : String := notice.level.text ++ " " ++ notice.text

end TraceLayout.Notice
