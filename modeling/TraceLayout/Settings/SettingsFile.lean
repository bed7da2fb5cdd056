import TraceLayout.Files.FileError
import TraceLayout.Settings.Basic
import TraceLayout.Toml.Reader

/-! Settings in a TOML file. Keys that are missing keep the values of the empty settings, and
unknown keys say nothing. The environment has no part in it. -/
namespace TraceLayout

/-- Why a file gives no settings. -/
inductive SettingsError
  | unreadable (path : OsText) (error : FileError)
  /-- The text is no TOML, or a key has a value of the wrong type. -/
  | malformed (path : OsText)
  deriving DecidableEq, Repr

def SettingsError.message : SettingsError → String
  | .unreadable path _ => s!"Failed to read config {path.shown}"
  | .malformed path => s!"Failed to parse config {path.shown}"

/-- What a failure to get settings comes from. -/
def SettingsError.cause? : SettingsError → Option String
  | .unreadable _ error => some error.message
  | .malformed _ => some "the text is not a TOML document with keys of the right types"

namespace Settings
open Toml

def textOf? : Value → Option String
  | .string text => some text
  | _ => none

def rootOf? : Option Item → Option (Option OsText)
  | none => some none
  | some (.value (.string text)) => some (some (.ofString text))
  | some _ => none

def filtersOf? : Option Item → Option (List String)
  | none => some []
  | some (.value (.array items)) => items.mapM textOf?
  | some _ => none

def verifyOf? : Option Item → Option Bool
  | none => some true
  | some (.value (.bool value)) => some value
  | some _ => none

def ofToml? (text : String) : Option Settings := do
  let entries ← Toml.parse? text
  return {
    root? := ← rootOf? (entries.lookup "tracefs_root")
    filters := ← filtersOf? (entries.lookup "events")
    verifyHeaders := ← verifyOf? (entries.lookup "verify_common_fields") }

/-- The settings in a file, as `read` reads files. -/
def ofFile (read : OsText → Except FileError String) (path : OsText) :
    Except SettingsError Settings :=
  match read path with
  | .error error => .error (.unreadable path error)
  | .ok text =>
    match ofToml? text with
    | some settings => .ok settings
    | none => .error (.malformed path)

end TraceLayout.Settings
