import Std.Time
import TraceLayout.Command.Command

/-! The program at the command line. It reads the environment, the files that the request names and
the clock, and prints and writes what the request determines. -/
namespace TraceLayout.Main

def fileError : IO.Error → FileError
  | .noFileOrDirectory .. => .notFound
  | .inappropriateType _ code _ => if code = 20 then .notADirectory else .isADirectory
  | .permissionDenied _ code _ => if code = 13 then .permissionDenied else .notPermitted
  | error => .other (toString error)

/-- Does something with a file. Only paths in UTF-8 can be opened. -/
def withPath {α : Type} (path : OsText) (act : String → IO (Except FileError α)) :
    IO (Except FileError α) := do
  match path.text? with
  | none => return .error (.other "the path is not UTF-8")
  | some path => try act path catch error => return .error (fileError error)

def readText (path : OsText) : IO (Except FileError String) :=
  withPath path fun path => do
    match String.fromUTF8? (← IO.FS.readBinFile path) with
    | some text => return .ok text
    | none => return .error .notText

def writeText (path : OsText) (text : String) : IO (Except FileError Unit) :=
  withPath path fun path => do
    IO.FS.writeFile path text
    return .ok ()

/-- Whether a path leads to a directory, which cannot be read as a file. -/
def isDirectory (path : OsText) : IO Bool := do
  return (← readText path) matches .error .isADirectory

def environment : IO Environment := do
  let names := [Settings.rootVariable, Settings.filtersVariable, Settings.verifyVariable,
    Command.filterVariable, Command.stylesVariable]
  names.filterMapM fun name => do
    return (← IO.getEnv name).map fun value => (name, .ofString value)

def readAll (paths : List OsText) : IO (OsText → Except FileError String) := do
  let contents ← paths.mapM fun path => do return (path, ← readText path)
  return fun path => (contents.lookup path).getD (.error .notFound)

/-- The time of the clock, to the microsecond. -/
def stamp : IO String := do
  let now ← Std.Time.Timestamp.now
  return (Std.Time.DateTime.ofTimestampWithZone now .UTC).format "uuuu-MM-dd'T'HH:mm:ss.SSSSSS'Z'"

def print (report : Report) : IO UInt32 := do
  let errors ← IO.getStderr
  IO.print report.output
  errors.putStr (report.errorText (← stamp))
  return UInt32.ofNat report.exit

def run (words : List OsText) : IO UInt32 := do
  let environment ← environment
  let places ← (Tracefs.mountPoints.map Tracefs.eventsPath).filterM isDirectory
  let mounted? := Tracefs.mounted? places.contains
  let nothing := fun _ => .error .notFound
  let settingsFile ← readAll (Command.pathsRead words environment nothing mounted?)
  let read ← readAll (Command.pathsRead words environment settingsFile mounted?)
  match Command.run words environment read mounted? with
  | .error error =>
    (← IO.getStderr).putStrLn s!"error: {error.message}"
    return 2
  | .ok (.done report) => print report
  | .ok (.write path text next) => print (next (← writeText path text))

end TraceLayout.Main

def main (words : List String) : IO UInt32 := TraceLayout.Main.run (words.map .ofString)
