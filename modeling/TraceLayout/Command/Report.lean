import TraceLayout.Command.Terminal
import TraceLayout.Log.LogFilter

/-! What a command prints, and how it ends. Results go to the standard output, and notes about them,
failures and the log to the standard error. -/
namespace TraceLayout

/-- A line on the standard error. A notice gets a time stamp in front when it is printed. -/
inductive ErrorLine
  | notice (notice : Notice)
  | text (text : String)
  deriving DecidableEq, Repr

structure Report where
  output : String := ""
  errors : List ErrorLine := []
  exit : Nat := 0
  deriving DecidableEq, Repr

/-- What a command does: it is finished, or it writes a text to a file, and the outcome decides the
report. -/
inductive Plan
  | done (report : Report)
  | write (path : OsText) (text : String) (next : Except FileError Unit → Report)

namespace Report

/-- A line of the log with the time it was made at. Its text may come from files, and leaves the
terminal alone. -/
def logLine (stamp : String) (notice : Notice) : String :=
  stamp ++ " " ++ Terminal.padLeft 5 notice.level.text ++ " " ++ Terminal.inert notice.text

def errorText (report : Report) (stamp : String) : String :=
  String.join <| report.errors.map fun
    | .notice notice => logLine stamp notice ++ "\n"
    | .text text => text ++ "\n"

def indented (text : String) : String :=
  "    " ++ String.ofList (text.toList.flatMap fun c => if c = '\n' then "\n    ".toList else [c])

def failureText (message : String) (cause? : Option String) : String :=
  "Error: " ++ message ++
    match cause? with
    | none => ""
    | some cause => "\n\nCaused by:\n" ++ indented cause

/-- The report that ends in failure after what it says already. -/
def fail (report : Report) (message : String) (cause? : Option String) : Report :=
  { report with
    errors := report.errors ++ [.text (failureText message cause?)]
    exit := 1 }

end TraceLayout.Report
