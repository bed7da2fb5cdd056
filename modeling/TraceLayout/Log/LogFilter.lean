import TraceLayout.Log.LogRule
import TraceLayout.Log.Notice

/-! Which notices a log shows. A filter is a list of rules with commas between them: a rule gives a
threshold to the channels whose names begin with its own, and the longest name that fits decides. -/
namespace TraceLayout

/-- The number by which a threshold admits a level. Thresholds run from 0, which admits nothing, to
5. -/
def Level.rank : Level → Nat
  | .warn => 2
  | .info => 3
  | .debug => 4

namespace Notice

/-- The channel of a notice, which is the part of the program that it comes from. -/
def channel : Notice → String
  | .settingsChosen _ => "ftrace_proto::commands::build"
  | .resolving .. => "ftrace_proto_agent"
  | .pathRejected .. | .fileUnreadable .. | .readDenied .. => "ftrace_proto_agent::procfs"
  | .unavailable .. | .unparsable .. | .idTaken .. | .fieldMissing .. | .fieldUnsupported ..
  | .headerDiffers .. | .tableBuilt .. => "ftrace_proto_agent::table::builder"

/-- The only field of a notice, which holds its text. -/
def fieldName : String := "message"

end Notice

abbrev LogFilter := List LogRule

namespace LogFilter

def ofThreshold (threshold : Nat) : LogFilter := [{ threshold }]

/-- Reads a filter. Empty rules say nothing, and all others have to be readable. -/
def parse? (text : String) : Option LogFilter :=
  (((text.toList.splitOn ',').filter (· != [])).mapM LogRule.read).map List.flatten

end LogFilter

namespace LogRule

def fits (rule : LogRule) (channel : String) : Bool :=
  rule.channel?.all (·.isPrefixOf channel.toList) &&
    rule.field?.all (· == Notice.fieldName.toList)

/-- How closely a rule describes what it fits: by the length of its channel, and then by its field.
-/
def weight (rule : LogRule) : Nat :=
  2 * (rule.channel?.map (·.length + 1)).getD 0 + (if rule.field?.isSome then 1 else 0)

end LogRule

namespace LogFilter

/-- The rule that decides about a channel: the last of those that describe it most closely. -/
def ruleFor? (filter : LogFilter) (channel : String) : Option LogRule :=
  (filter.filter (·.fits channel)).foldl
    (fun best? rule =>
      if best?.any (rule.weight < ·.weight) then best? else some rule)
    none

def shows (filter : LogFilter) (notice : Notice) : Bool :=
  (filter.ruleFor? notice.channel).any fun rule => notice.level.rank ≤ rule.threshold

end TraceLayout.LogFilter
