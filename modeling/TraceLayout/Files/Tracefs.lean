import TraceLayout.Files.FileTree
import TraceLayout.Layout.FormatSource

/-! The part of tracefs that holds event formats: below its root, `events` has a directory for each
group, in it one for each event, and in that the file `format`. Groups and names that could leave
this tree are rejected. -/
namespace TraceLayout

/-- A tracefs, or a copy of one, by the path of its root. -/
structure Tracefs where
  root : OsText
  deriving DecidableEq, Repr

namespace Tracefs

/-- Where tracefs is usually mounted, the first choice first. -/
def mountPoints : List OsText := ["/sys/kernel/tracing", "/sys/kernel/debug/tracing"]

def eventsPath (root : OsText) : OsText := Path.join root "events"

/-- The first usual mount point that has events, where `isDirectory` tells what is a directory. -/
def mounted? (isDirectory : OsText → Bool) : Option Tracefs :=
  (mountPoints.find? fun root => isDirectory (eventsPath root)).map .mk

def groupPath (tracefs : Tracefs) (group : String) : OsText :=
  Path.join (eventsPath tracefs.root) group

def formatPath? (tracefs : Tracefs) (group name : String) : Option OsText :=
  if Path.isPlain group && Path.isPlain name then
    some (Path.join (Path.join (tracefs.groupPath group) name) "format")
  else none

def source (tracefs : Tracefs) (read : OsText → Except FileError String) : FormatSource :=
  fun group name =>
    match tracefs.formatPath? group name with
    | none => ⟨none, [.pathRejected group name]⟩
    | some path =>
      match read path with
      | .ok text => ⟨some text, []⟩
      | .error error =>
        ⟨none, [if error.isDenial then .readDenied path else .fileUnreadable path error]⟩

/-- The events of a group that have a format file, in the order of their names. Entries whose names
are not UTF-8 are left out. -/
def eventNames (tracefs : Tracefs) (files : Files) (group : String) : List String :=
  if Path.isPlain group then
    let directory := tracefs.groupPath group
    let hasFormat := fun name => files.isFile (Path.join (Path.join directory name) "format")
    let entries := ((files.entryNames? directory).getD []).filter hasFormat
    (entries.filterMap (·.text?)).mergeSort
  else []

end TraceLayout.Tracefs
