import TraceLayout.Command.Arguments
import TraceLayout.Settings.Environment
import TraceLayout.Settings.SettingsFile

/-! What a command line asks for. An option comes before the environment, and the environment before
a settings file, except that a settings file makes the environment's filters and checks of no
effect. -/
namespace TraceLayout

structure BuildRequest where
  root? : Option OsText := none
  file? : Option OsText := none
  filters : List String := []
  /-- Where to write the table as JSON. -/
  json? : Option OsText := none
  skipVerify : Bool := false
  verbose : Bool := false
  deriving DecidableEq, Repr

structure FormatRequest where
  group : String
  name : String
  root? : Option OsText := none
  deriving DecidableEq, Repr

inductive Request
  | version
  | build (request : BuildRequest)
  | format (request : FormatRequest)
  deriving DecidableEq, Repr

namespace Request

def rootRule : OptionRule where
  long := "tracefs"

def buildRules : List OptionRule := [
  rootRule,
  { long := "config", letter? := some 'c'.toUInt8 },
  { long := "event", letter? := some 'e'.toUInt8, repeatable := true, emptyValue := true,
    textValue := true },
  { long := "json" },
  { long := "no-verify-common", takesValue := false },
  { long := "verbose", letter? := some 'v'.toUInt8, takesValue := false }]

/-- The root that an option names, or else the environment, where it must not be empty. -/
def rootOf (environment : Environment) (given : List Given) : Except UsageError (Option OsText) :=
  match (Arguments.valuesOf rootRule.long given).head?,
    environment.lookup Settings.rootVariable with
  | some root, _ => .ok (some root)
  | none, some root => if root = "" then .error (.missingValue rootRule.long) else .ok (some root)
  | none, none => .ok none

def readBuild (environment : Environment) (words : List OsText) :
    Except UsageError BuildRequest := do
  let given ← Arguments.read buildRules words
  match Arguments.operands given with
  | word :: _ => .error (.extraOperand word)
  | [] =>
    return {
      root? := ← rootOf environment given
      file? := (Arguments.valuesOf "config" given).head?
      filters := (Arguments.valuesOf "event" given).filterMap (·.text?)
      json? := (Arguments.valuesOf "json" given).head?
      skipVerify := Arguments.has "no-verify-common" given
      verbose := Arguments.has "verbose" given }

def readText (name : String) (word : OsText) : Except UsageError String :=
  match word.text? with
  | some text => .ok text
  | none => .error (.notText name)

def readFormat (environment : Environment) (words : List OsText) :
    Except UsageError FormatRequest := do
  let given ← Arguments.read [rootRule] words
  match Arguments.operands given with
  | [group, name] =>
    return {
      group := ← readText "GROUP" group
      name := ← readText "NAME" name
      root? := ← rootOf environment given }
  | [] => .error (.missingOperand "GROUP")
  | [_] => .error (.missingOperand "NAME")
  | _ :: _ :: word :: _ => .error (.extraOperand word)

def read (environment : Environment) : List OsText → Except UsageError Request
  | [] => .error .noCommand
  | word :: words =>
    if word = "build" then (readBuild environment words).map .build
    else if word = "format" then (readFormat environment words).map .format
    else if word = "--version" ∨ Text.bytes "-V" <+: word.bytes then .ok .version
    else if Arguments.shape word = .operand then .error (.unknownCommand word)
    else .error (.unknownOption word)

end Request

/-- The settings of a build: those of the file or else of the environment, changed by the options.
-/
def BuildRequest.settings (request : BuildRequest) (environment : Environment)
    (read : OsText → Except FileError String) : Except SettingsError Settings := do
  let settings ← match request.file? with
    | some path => Settings.ofFile read path
    | none => .ok (Settings.ofEnvironment environment)
  return {
    root? := request.root?.or settings.root?
    filters := if request.filters = [] then settings.filters else request.filters
    verifyHeaders := !request.skipVerify && settings.verifyHeaders }

end TraceLayout
