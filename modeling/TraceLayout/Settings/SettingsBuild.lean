import TraceLayout.Catalogue.Builtin
import TraceLayout.Files.Tracefs
import TraceLayout.Layout.Build

/-! Building the table that settings ask for, from the format files of a tracefs. -/
namespace TraceLayout

/-- Why settings give no table. -/
inductive SettingsBuildError
  | filter (error : FilterError)
  /-- No root is set, and tracefs is not mounted in a usual place. -/
  | noTracefs
  | catalogue (defect : DeclarationError)
  deriving DecidableEq, Repr

namespace SettingsBuildError

def message : SettingsBuildError → String
  | .filter _ => "Invalid configuration"
  | .noTracefs => "No tracefs found; mount it or set FTRACE_PROTO_TRACEFS"
  | .catalogue defect => Build.refusal defect

/-- What the failure comes from, where the message only says in which circumstance it arose. -/
def cause? : SettingsBuildError → Option String
  | .filter error => some error.message
  | .noTracefs | .catalogue _ => none

end SettingsBuildError

namespace Settings

/-- The tracefs to read: the root that is set, or else the one that is mounted. -/
def tracefs? (settings : Settings) (mounted? : Option Tracefs) : Option Tracefs :=
  match settings.root? with
  | some root => some ⟨root⟩
  | none => mounted?

/-- Builds the table of the events that settings select from a catalogue, as `read` reads files. -/
def buildFrom (settings : Settings) (catalogue : List DeclaredEvent)
    (read : OsText → Except FileError String) (mounted? : Option Tracefs) :
    Except SettingsBuildError Build :=
  match settings.filterError?, settings.tracefs? mounted? with
  | some error, _ => .error (.filter error)
  | none, none => .error .noTracefs
  | none, some tracefs =>
    let events := settings.select catalogue
    match Build.run (tracefs.source read) events settings.verifyHeaders with
    | .error defect => .error (.catalogue defect)
    | .ok build =>
      .ok { build with notices := .resolving events.length tracefs.root :: build.notices }

def build (settings : Settings) (read : OsText → Except FileError String)
    (mounted? : Option Tracefs) : Except SettingsBuildError Build :=
  settings.buildFrom Catalogue.builtin read mounted?

end TraceLayout.Settings
