import TraceLayout.Settings.Basic
import TraceLayout.Text.Quoted

/-! Settings on one line of a log, each under its name and with quotes around texts. -/
namespace TraceLayout.Settings
open Text

private def shownRoot : Option OsText → String
  | none => "None"
  | some root => "Some(" ++ root.quoted ++ ")"

def shown (settings : Settings) : String :=
  let filters := ", ".intercalate (settings.filters.map quoted)
  "TableConfig \x7b tracefs_root: " ++ shownRoot settings.root? ++ ", events: [" ++ filters
    ++ "], verify_common_fields: " ++ toString settings.verifyHeaders ++ " \x7d"

end TraceLayout.Settings
