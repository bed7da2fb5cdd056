import TraceLayout.Command.Report
import TraceLayout.Command.Request
import TraceLayout.Json.Records
import TraceLayout.Json.Writer
import TraceLayout.Settings.SettingsBuild

/-! The command that builds a table, shows its events, and says what is missing from it. -/
namespace TraceLayout.BuildCommand
open Terminal

def fieldRow (field : FieldLayout) : String :=
  "        " ++ padRight 20 field.name ++ " #" ++ padRight 3 (toString field.number) ++ " "
    ++ padRight 8 field.proto.text ++ " @" ++ toString field.offset ++ "+" ++ toString field.size
    ++ "  " ++ field.conversion.text ++ "\n"

def eventRow (event : EventLayout) : String :=
  padLeft 6 (toString event.id) ++ "  " ++ event.group ++ "/" ++ event.name ++ "  proto #"
    ++ toString event.number ++ "  size " ++ toString event.size ++ "\n"

/-- A table under its heading: a row for each event and, below it, for each of its fields. -/
def tableText (styles : Bool) (table : Table) : String :=
  styled styles .heading s!"{table.size} event(s), largest id {table.largestId}" ++ "\n"
    ++ String.join (table.events.map fun event =>
      eventRow event ++ String.join (event.fields.map fieldRow))

/-- A line of the notes, after a word in a style. -/
def note (styles : Bool) (style : Style) (word text : String) : ErrorLine :=
  .text (styled styles style word ++ " " ++ text)

def headerNote (styles : Bool) (table : Table) : ErrorLine :=
  let spans := table.header.map fun span => toString span.offset ++ "+" ++ toString span.size
  note styles .remark "note:" ("Common fields: [" ++ ", ".intercalate spans ++ "]")

/-- The last note: how many of the declared events have resolved. -/
def summary (styles : Bool) (table : Table) (declared : Nat) : ErrorLine :=
  if table.isEmpty then
    note styles .failure "error:" s!"None of {declared} declared events resolved"
  else note styles .success "done:" s!"{table.size} of {declared} declared events resolved"

def present (styles : Bool) (json? : Option OsText) (declared : Nat) (build : Build)
    (log : List ErrorLine) : Plan :=
  let report : Report := {
    output := tableText styles build.table
    errors := log ++ headerNote styles build.table ::
      build.diagnostics.map fun diagnostic => note styles .omission "skipped:" diagnostic.message }
  let finish (notes : List ErrorLine) : Report :=
    { report with errors := report.errors ++ notes ++ [summary styles build.table declared] }
  match json? with
  | none => .done (finish [])
  | some path =>
    .write path build.table.toJson.pretty fun
      | .ok () => finish [note styles .remark "note:" s!"Table written to {path.shown}"]
      | .error error => report.fail s!"Failed to write {path.shown}" (some error.message)

def run (request : BuildRequest) (environment : Environment) (filter : LogFilter) (styles : Bool)
    (read : OsText → Except FileError String) (mounted? : Option Tracefs) : Plan :=
  match request.settings environment read with
  | .error error => .done (Report.fail {} error.message error.cause?)
  | .ok settings =>
    let logged (notices : List Notice) : List ErrorLine := (notices.filter filter.shows).map .notice
    let chosen := logged [.settingsChosen settings]
    match settings.build read mounted? with
    | .error error =>
      let report : Report := { errors := chosen }
      .done (report.fail error.message error.cause?)
    | .ok build =>
      let declared := (settings.select Catalogue.builtin).length
      present styles request.json? declared build (chosen ++ logged build.notices)

end TraceLayout.BuildCommand
