import TraceLayout.Command.BuildCommand
import TraceLayout.Command.FormatCommand

/-! The program as a whole: a command line, an environment and a way to read files determine what it
does. -/
namespace TraceLayout.Command

def versionText : String := "ftrace-proto 0.1.0\n"

def filterVariable : String := "RUST_LOG"

def stylesVariable : String := "CLICOLOR_FORCE"

/-- The log filter that the environment chooses. Without one that can be read, a threshold is set
for all channels: the one for debugging if `verbose`, and else the one for warnings. -/
def logFilter (environment : Environment) (verbose : Bool) : LogFilter :=
  ((environment.text? filterVariable).bind LogFilter.parse?).getD
    (.ofThreshold (if verbose then Level.debug else Level.warn).rank)

def forcesStyles (environment : Environment) : Bool :=
  (environment.text? stylesVariable).any (· != "0")

/-- What the program does with a command line, or why it cannot be understood. -/
def run (words : List OsText) (environment : Environment)
    (read : OsText → Except FileError String) (mounted? : Option Tracefs) :
    Except UsageError Plan := do
  let styles := forcesStyles environment
  match ← Request.read environment words with
  | .version => return .done { output := versionText }
  | .build request =>
    let filter := logFilter environment request.verbose
    return BuildCommand.run request environment filter styles read mounted?
  | .format request =>
    let filter := logFilter environment false
    return .done (FormatCommand.run request filter styles read mounted?)

/-- The files that the program reads for a command line, as far as what `read` gives tells. -/
def pathsRead (words : List OsText) (environment : Environment)
    (read : OsText → Except FileError String) (mounted? : Option Tracefs) : List OsText :=
  match Request.read environment words with
  | .error _ | .ok .version => []
  | .ok (.format request) =>
    match (request.root?.map Tracefs.mk).or mounted? with
    | none => []
    | some tracefs => (tracefs.formatPath? request.group request.name).toList
  | .ok (.build request) =>
    request.file?.toList ++
      match request.settings environment read with
      | .error _ => []
      | .ok settings =>
        match settings.tracefs? mounted? with
        | none => []
        | some tracefs =>
          (settings.select Catalogue.builtin).filterMap fun event =>
            tracefs.formatPath? event.group event.name

end TraceLayout.Command
