import TraceLayout.Command.Report
import TraceLayout.Command.Request
import TraceLayout.Files.Tracefs
import TraceLayout.Kernel.KernelFormat

/-! The command that shows how the kernel lays out one event. -/
namespace TraceLayout.FormatCommand
open Terminal

def fieldRow (field : KernelField) : String :=
  "  " ++ padRight 36 field.declaration ++ " offset " ++ padRight 4 (toString field.offset)
    ++ " size " ++ padRight 4 (toString field.size) ++ " "
    ++ ((field.type?.map (·.text)).getD "?") ++ "\n"

/-- A format under its heading: the fields of the header, and then the event's own. -/
def formatText (styles : Bool) (group : String) (format : KernelFormat) : String :=
  styled styles .heading s!"{group}/{format.name} (id {format.id})" ++ "\n"
    ++ "common fields:\n" ++ String.join (format.header.map fieldRow)
    ++ "fields:\n" ++ String.join (format.fields.map fieldRow)

/-- Says how many of the event's own fields have an unknown layout, if there are any. -/
def unknownNotes (styles : Bool) (format : KernelFormat) : List ErrorLine :=
  let unknown := (format.fields.filter (·.type?.isNone)).length
  if unknown = 0 then []
  else [.text (styled styles .omission "skipped:" ++
    s!" {unknown} field(s) have no translatable kernel type")]

def run (request : FormatRequest) (filter : LogFilter) (styles : Bool)
    (read : OsText → Except FileError String) (mounted? : Option Tracefs) : Report :=
  match (request.root?.map Tracefs.mk).or mounted? with
  | none => Report.fail {} "No tracefs found; mount it or pass --tracefs" none
  | some tracefs =>
    let reply := tracefs.source read request.group request.name
    let report : Report := { errors := (reply.notices.filter filter.shows).map .notice }
    let path := s!"{request.group}/{request.name}"
    match reply.text?.filter (· != "") with
    | none => report.fail s!"Kernel exposes no format for {path}" none
    | some text =>
      match KernelFormat.parse text with
      | .error error => report.fail s!"Failed to parse format of {path}" (some error.message)
      | .ok format =>
        { report with
          output := formatText styles request.group format
          errors := report.errors ++ unknownNotes styles format }

end TraceLayout.FormatCommand
