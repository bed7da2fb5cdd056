import TraceLayout.Command.Command
import TraceLayout.Proofs.Command.CommandLine
import TraceLayout.Proofs.Settings.SettingsFile
import TraceLayout.Proofs.Settings.Variables

/-! Where the settings of a build come from. Each key has its own order among the options, the
environment and a settings file, and with a file the environment has a say in the root alone. -/
namespace TraceLayout

open Arguments

/-- The options of a build can be told apart. -/
theorem unambiguous_buildRules : Unambiguous Request.buildRules := by
  constructor <;> decide +kernel

namespace BuildRequest
open Settings

/-- The words of a command line ask for a build by what they say: they give no option twice but
filters, leave no operand over, and an empty root is not what is left to choose. -/
structure IsAsked (environment : Environment) (words : List OsText) (given : List Given) :
    Prop where
  meant : Means Request.buildRules words given
  once : ∀ rule ∈ Request.buildRules, rule.repeatable = false →
    (valuesOf rule.long given).length ≤ 1
  options : operands given = []
  root : valuesOf "tracefs" given = [] → environment.lookup rootVariable ≠ some ""

/-- The settings file that the options name, where they name one. -/
inductive FileFrom (given : List Given) (read : OsText → Except FileError String) :
    Option Settings → Prop
  | none : valuesOf "config" given = [] → FileFrom given read none
  | some : valuesOf "config" given = [path] → read path = .ok text →
      Toml.parse? text = some entries → Records entries file → FileFrom given read (some file)

section
variable (given : List Given) (environment : Environment) (file? : Option Settings)

/-- An option comes before the environment, and that before the file. -/
inductive RootFrom : Option OsText → Prop
  | option : valuesOf "tracefs" given = [root] → RootFrom (some root)
  | variable : valuesOf "tracefs" given = [] → environment.lookup rootVariable = some root →
      RootFrom (some root)
  | file : valuesOf "tracefs" given = [] → environment.lookup rootVariable = none →
      RootFrom (file?.bind (·.root?))

/-- Options come before the file, and that before the environment. -/
inductive FiltersFrom : List String → Prop
  | options : valuesOf "event" given = listed.map .ofString → listed ≠ [] → FiltersFrom listed
  | file : valuesOf "event" given = [] → file? = some file → FiltersFrom file.filters
  | variable : valuesOf "event" given = [] → file? = none →
      environment.Holds filtersVariable list → Lists list.toList listed → FiltersFrom listed
  | all : valuesOf "event" given = [] → file? = none →
      (∀ list, ¬ environment.Holds filtersVariable list) → FiltersFrom []

/-- The option declines, and without it the file decides, or else the environment. -/
inductive VerifyFrom : Bool → Prop
  | option : valuesOf "no-verify-common" given ≠ [] → VerifyFrom false
  | file : valuesOf "no-verify-common" given = [] → file? = some file →
      VerifyFrom file.verifyHeaders
  | declined : valuesOf "no-verify-common" given = [] → file? = none →
      environment.Holds verifyVariable word → Declines word → VerifyFrom false
  | asked : valuesOf "no-verify-common" given = [] → file? = none →
      (∀ word, environment.Holds verifyVariable word → ¬ Declines word) → VerifyFrom true

/-- Every key of the settings has the value that comes first in its order. -/
structure Resolves (settings : Settings) : Prop where
  root : RootFrom given environment file? settings.root?
  filters : FiltersFrom given environment file? settings.filters
  verify : VerifyFrom given environment file? settings.verifyHeaders

end

/-- The request of some options, where the environment may name the root. -/
def ofGiven (environment : Environment) (given : List Given) : BuildRequest where
  root? := (valuesOf "tracefs" given).head?.or (environment.lookup rootVariable)
  file? := (valuesOf "config" given).head?
  filters := (valuesOf "event" given).filterMap (·.text?)
  json? := (valuesOf "json" given).head?
  skipVerify := has "no-verify-common" given
  verbose := has "verbose" given

/-- What a request makes of settings. -/
def amend (request : BuildRequest) (base : Settings) : Settings where
  root? := request.root?.or base.root?
  filters := if request.filters = [] then base.filters else request.filters
  verifyHeaders := !request.skipVerify && base.verifyHeaders

section
variable {request : BuildRequest} {environment : Environment}
  {read : OsText → Except FileError String}

theorem settings_of_file {path : OsText} (named : request.file? = some path) :
    request.settings environment read = (ofFile read path).map request.amend := by
  unfold BuildRequest.settings
  simp only [named]
  cases ofFile read path <;> rfl

theorem settings_of_environment (none_ : request.file? = none) :
    request.settings environment read = .ok (request.amend (.ofEnvironment environment)) := by
  unfold BuildRequest.settings
  rw [none_]
  rfl

end

theorem rootOf_eq_ok_iff {environment : Environment} {given : List Given}
    {root? : Option OsText} :
    Request.rootOf environment given = .ok root? ↔
      (valuesOf "tracefs" given = [] → environment.lookup rootVariable ≠ some "") ∧
        root? = (valuesOf "tracefs" given).head?.or (environment.lookup rootVariable) := by
  unfold Request.rootOf
  simp only [Request.rootRule]
  cases valuesOf "tracefs" given with
  | cons root more => simp [eq_comm]
  | nil =>
    cases environment.lookup rootVariable with
    | none => simp [eq_comm]
    | some root => by_cases empty : root = "" <;> simp [empty, eq_comm]

theorem readBuild_eq_ok_iff {environment : Environment} {words : List OsText}
    {request : BuildRequest} :
    Request.readBuild environment words = .ok request ↔
      ∃ given, IsAsked environment words given ∧ request = ofGiven environment given := by
  unfold Request.readBuild
  rw [bind_eq_ok_iff]
  refine exists_congr fun given => ?_
  rw [read_eq_ok_iff unambiguous_buildRules]
  constructor
  · rintro ⟨⟨meant, once⟩, made⟩
    split at made
    · contradiction
    · rename_i options
      obtain ⟨root?, chosen, made⟩ := bind_eq_ok_iff.mp made
      obtain ⟨root, rfl⟩ := rootOf_eq_ok_iff.mp chosen
      exact ⟨⟨meant, once, options, root⟩, (Except.ok.inj made).symm⟩
  · rintro ⟨asked, rfl⟩
    refine ⟨⟨asked.meant, asked.once⟩, ?_⟩
    rw [asked.options]
    exact bind_eq_ok_iff.mpr ⟨_, rootOf_eq_ok_iff.mpr ⟨asked.root, rfl⟩, rfl⟩

theorem request_eq_ok_iff {environment : Environment} {words : List OsText}
    {request : BuildRequest} :
    Request.read environment ("build" :: words) = .ok (.build request) ↔
      ∃ given, IsAsked environment words given ∧ request = ofGiven environment given := by
  rw [← readBuild_eq_ok_iff, Request.read, if_pos rfl]
  cases Request.readBuild environment words <;> simp [Except.map]

section
variable {given : List Given} {environment : Environment} {words : List OsText}
  (asked : IsAsked environment words given)
include asked

/-- An option that is not repeatable is given once at most. -/
theorem IsAsked.eq_nil_or_singleton (rule : OptionRule) (member : rule ∈ Request.buildRules)
    (single : rule.repeatable = false) :
    valuesOf rule.long given = [] ∨ ∃ value, valuesOf rule.long given = [value] := by
  have short := asked.once rule member single
  match values : valuesOf rule.long given with
  | [] => exact .inl rfl
  | [value] => exact .inr ⟨value, rfl⟩
  | _ :: _ :: _ => simp [values] at short

/-- Filters are texts. -/
theorem IsAsked.map_filters :
    (ofGiven environment given).filters.map .ofString = valuesOf "event" given := by
  have text (value : OsText) (member : value ∈ valuesOf "event" given) :
      ∃ text : String, value = text := by
    obtain ⟨rule, known, named, admits⟩ := asked.meant.admitted (mem_valuesOf_iff.mp member)
    have only : ∀ rule ∈ Request.buildRules, rule.long = "event" →
        rule.textValue = true ∧ rule.takesValue = true := by decide
    obtain ⟨textual, takes⟩ := only rule known named
    rcases admits with accepts | ⟨noValue, -⟩
    · exact accepts.encoded textual
    · simp [takes] at noValue
  rw [ofGiven, List.map_filterMap]
  refine Eq.trans (List.filterMap_congr fun value member => ?_) List.filterMap_some
  obtain ⟨text, rfl⟩ := text value member
  simp

theorem settings_eq_ok_iff {read : OsText → Except FileError String} {settings : Settings} :
    (ofGiven environment given).settings environment read = .ok settings ↔
      ∃ file?, FileFrom given read file? ∧
        settings = (ofGiven environment given).amend (file?.getD (.ofEnvironment environment)) := by
  have once : valuesOf "config" given = [] ∨ ∃ path, valuesOf "config" given = [path] :=
    asked.eq_nil_or_singleton { long := "config", letter? := some 'c'.toUInt8 } (by decide) rfl
  rcases once with values | ⟨path, values⟩
  · have none_ : (ofGiven environment given).file? = none := by simp [ofGiven, values]
    rw [settings_of_environment none_, Except.ok.injEq]
    constructor
    · rintro rfl
      exact ⟨none, .none values, rfl⟩
    · rintro ⟨file?, origin, rfl⟩
      cases origin with
      | none => rfl
      | some one => simp [values] at one
  · have named : (ofGiven environment given).file? = some path := by simp [ofGiven, values]
    rw [settings_of_file named]
    constructor
    · intro succeeded
      cases found : ofFile read path with
      | error error => simp [found, Except.map] at succeeded
      | ok file =>
        obtain ⟨text, entries, content, parsed, records⟩ := ofFile_eq_ok_iff.mp found
        rw [found] at succeeded
        exact ⟨some file, .some values content parsed records, (Except.ok.inj succeeded).symm⟩
    · rintro ⟨file?, origin, rfl⟩
      cases origin with
      | none none_ => simp [values] at none_
      | some one content parsed records =>
        obtain rfl := List.singleton_inj.mp (values.symm.trans one)
        rw [ofFile_eq_ok_iff.mpr ⟨_, _, content, parsed, records⟩]
        rfl

variable (file? : Option Settings)

theorem rootFrom_amend :
    RootFrom given environment file?
      ((ofGiven environment given).amend (file?.getD (.ofEnvironment environment))).root? := by
  have once : valuesOf "tracefs" given = [] ∨ ∃ root, valuesOf "tracefs" given = [root] :=
    asked.eq_nil_or_singleton Request.rootRule (by decide) rfl
  rcases once with values | ⟨root, values⟩
  · cases held : environment.lookup rootVariable with
    | some root => simpa [amend, ofGiven, values, held] using .variable values held
    | none =>
      have made : RootFrom given environment file? (file?.bind (·.root?)) := .file values held
      cases file? <;> simpa [amend, ofGiven, values, held, ofEnvironment] using made
  · simpa [amend, ofGiven, values] using .option values

theorem filtersFrom_amend :
    FiltersFrom given environment file?
      ((ofGiven environment given).amend (file?.getD (.ofEnvironment environment))).filters := by
  have listed := asked.map_filters
  by_cases empty : (ofGiven environment given).filters = []
  · have none_ : valuesOf "event" given = [] := by rw [← listed, empty, List.map_nil]
    rw [amend, if_pos empty]
    cases file? with
    | some file => simpa using .file none_ rfl
    | none =>
      by_cases unset : ∀ list, ¬ environment.Holds filtersVariable list
      · have value := filters_ofEnvironment_of_unset unset
        simpa [value] using .all none_ rfl unset
      · obtain ⟨list, held⟩ := not_forall_not.mp unset
        have lists : Lists list.toList (filtersOf list) := filtersOf_eq_iff.mp rfl
        have value := filters_ofEnvironment held lists
        simpa [value] using .variable none_ rfl held lists
  · rw [amend, if_neg empty]
    exact .options listed.symm empty

omit asked in
theorem verifyFrom_amend :
    VerifyFrom given environment file?
      ((ofGiven environment given).amend
        (file?.getD (.ofEnvironment environment))).verifyHeaders := by
  by_cases none_ : valuesOf "no-verify-common" given = []
  · cases file? with
    | some file => simpa [amend, ofGiven, has, none_] using .file none_ rfl
    | none =>
      cases value : (ofEnvironment environment).verifyHeaders with
      | false =>
        obtain ⟨word, held, declines⟩ := verifyHeaders_ofEnvironment_eq_false_iff.mp value
        simpa [amend, ofGiven, has, none_, value] using .declined none_ rfl held declines
      | true =>
        have asked : ∀ word, environment.Holds verifyVariable word → ¬ Declines word := by
          intro word held declines
          rw [verifyHeaders_ofEnvironment_eq_false_iff.mpr ⟨word, held, declines⟩] at value
          contradiction
        simpa [amend, ofGiven, has, none_, value] using .asked none_ rfl asked
  · have some_ : has "no-verify-common" given = true := by simpa [has] using none_
    simpa [amend, ofGiven, some_] using .option none_

end

/-- Environments agree but for the variables that a settings file leaves without effect. -/
def AgreesElsewhere (environment other : Environment) : Prop :=
  ∀ name, name ≠ filtersVariable → name ≠ verifyVariable →
    other.lookup name = environment.lookup name

section
variable {environment other : Environment} (agrees : AgreesElsewhere environment other)
include agrees

theorem AgreesElsewhere.text?_eq (name : String) (free : name ≠ filtersVariable)
    (free' : name ≠ verifyVariable) : other.text? name = environment.text? name := by
  rw [Environment.text?, Environment.text?, agrees name free free']

theorem AgreesElsewhere.read_eq (words : List OsText) :
    Request.read other words = Request.read environment words := by
  have root : Request.rootOf other = Request.rootOf environment := by
    funext given
    simp only [Request.rootOf, agrees rootVariable (by decide) (by decide)]
  have build : Request.readBuild other = Request.readBuild environment := by
    funext words
    simp only [Request.readBuild, root]
  have format : Request.readFormat other = Request.readFormat environment := by
    funext words
    simp only [Request.readFormat, root]
  unfold Request.read
  simp only [build, format]

/-- With a settings file the whole run of a build is that of any such environment. -/
theorem AgreesElsewhere.run_eq {words : List OsText} {request : BuildRequest} {path : OsText}
    {read : OsText → Except FileError String}
    (asks : Request.read environment words = .ok (.build request))
    (named : request.file? = some path) (mounted? : Option Tracefs) :
    Command.run words other read mounted? = Command.run words environment read mounted? := by
  have same : request.settings other read = request.settings environment read := by
    rw [settings_of_file named, settings_of_file named]
  have styles : Command.forcesStyles other = Command.forcesStyles environment := by
    rw [Command.forcesStyles, agrees.text?_eq _ (by decide) (by decide), Command.forcesStyles]
  have filter : Command.logFilter other = Command.logFilter environment := by
    funext verbose
    rw [Command.logFilter, agrees.text?_eq _ (by decide) (by decide), Command.logFilter]
  have build (styles : Bool) (filter : LogFilter) :
      BuildCommand.run request other filter styles read mounted? =
        BuildCommand.run request environment filter styles read mounted? := by
    rw [BuildCommand.run, same, BuildCommand.run]
  unfold Command.run
  rw [agrees.read_eq, asks, styles, filter]
  exact congrArg Except.ok (build _ _)

end

/-- A build is asked for exactly if its options say something, none of its words is left over, and
an empty root is not what is left to choose. Its settings then have, key by key, the value that
comes first among those of the options, of the environment and of the settings file. With a
settings file the variables for filters and for the comparison of headers change nothing that the
command does, and without it a list of filters gives back what was listed. -/
theorem settings_resolves (words : List OsText) (environment : Environment)
    (read : OsText → Except FileError String) :
    ((∃ request, Request.read environment ("build" :: words) = .ok (.build request)) ↔
      ∃ given, IsAsked environment words given) ∧
    ∀ given, IsAsked environment words given →
      ∃ request, Request.read environment ("build" :: words) = .ok (.build request) ∧
        ((∃ settings, request.settings environment read = .ok settings) ↔
          ∃ file?, FileFrom given read file?) ∧
        (∀ settings, request.settings environment read = .ok settings →
          ∃ file?, FileFrom given read file? ∧ Resolves given environment file? settings) ∧
        (valuesOf "config" given ≠ [] → ∀ other, AgreesElsewhere environment other →
          Request.read other ("build" :: words) = .ok (.build request) ∧
          request.settings other read = request.settings environment read ∧
          ∀ mounted?, Command.run ("build" :: words) other read mounted? =
            Command.run ("build" :: words) environment read mounted?) ∧
        (valuesOf "event" given = [] → valuesOf "config" given = [] →
          ∀ list, environment.Holds filtersVariable list →
            ∃ settings, request.settings environment read = .ok settings ∧
              Lists list.toList settings.filters ∧
              (∀ listed, Lists list.toList listed → listed = settings.filters) ∧
              ∀ listed, (∀ filter ∈ listed, IsListable filter) → list = ",".intercalate listed →
                listed = settings.filters) := by
  constructor
  · simp only [request_eq_ok_iff]
    exact ⟨fun ⟨_, given, asked, _⟩ => ⟨given, asked⟩,
      fun ⟨given, asked⟩ => ⟨_, given, asked, rfl⟩⟩
  intro given asked
  have asks : Request.read environment ("build" :: words) =
      .ok (.build (ofGiven environment given)) := request_eq_ok_iff.mpr ⟨given, asked, rfl⟩
  refine ⟨_, asks, ?_, ?_, ?_, ?_⟩
  · simp only [settings_eq_ok_iff asked]
    exact ⟨fun ⟨_, file?, origin, _⟩ => ⟨file?, origin⟩,
      fun ⟨file?, origin⟩ => ⟨_, file?, origin, rfl⟩⟩
  · intro settings succeeded
    obtain ⟨file?, origin, rfl⟩ := (settings_eq_ok_iff asked).mp succeeded
    exact ⟨file?, origin, rootFrom_amend asked file?, filtersFrom_amend asked file?,
      verifyFrom_amend file?⟩
  · intro some_ other agrees
    obtain ⟨path, more, values⟩ := List.exists_cons_of_ne_nil some_
    have named : (ofGiven environment given).file? = some path := by simp [ofGiven, values]
    refine ⟨(agrees.read_eq _).trans asks, ?_, agrees.run_eq asks named⟩
    rw [settings_of_file named, settings_of_file named]
  · intro noFilters noFile list held
    have none_ : (ofGiven environment given).file? = none := by simp [ofGiven, noFile]
    have lists : Lists list.toList (ofEnvironment environment).filters :=
      filtersOf_eq_iff.mp (filters_ofEnvironment held (filtersOf_eq_iff.mp rfl)).symm
    have amended : ((ofGiven environment given).amend (ofEnvironment environment)).filters =
        (ofEnvironment environment).filters := by simp [amend, ofGiven, noFilters]
    refine ⟨_, settings_of_environment none_, ?_⟩
    rw [amended]
    refine ⟨lists, ?_, ?_⟩
    · intro listed lists
      exact (filters_ofEnvironment held lists).symm
    · rintro listed listable rfl
      exact (filters_ofEnvironment held (lists_intercalate listable)).symm

def setVariables : Environment := [
  (rootVariable, ⟨[0x2f, 0xff]⟩),
  (filtersVariable, " ipi/ipi_exit ,, power/cpu_idle,"),
  (verifyVariable, "no\n")]

def readDocument (path : OsText) : Except FileError String :=
  if path = "table.toml" then .ok "events = ['ipi/ipi_exit']\n" else .error .notFound

/-- Options in each of their forms: a value after an equals sign, in the next word, or right behind
a letter, and two letters after one dash. -/
def optionWords : List OsText := [
  "--tracefs=/t", "-e", "sched/sched_switch", "--event", "ipi/ipi_raise", "--no-verify-common",
  "-vctable.toml"]

def optionsGiven : List Given := [
  .option "tracefs" "/t", .option "event" "sched/sched_switch", .option "event" "ipi/ipi_raise",
  .option "no-verify-common" "", .option "verbose" "", .option "config" "table.toml"]

/-- Options come first, and a file before the variables for filters and for the comparison of
headers. The root of the environment need not be UTF-8. -/
theorem settings_resolves_sample :
    (Arguments.read Request.buildRules optionWords = .ok optionsGiven ∧
      IsAsked setVariables optionWords optionsGiven ∧
      ∃ file?, FileFrom optionsGiven readDocument file? ∧
        Resolves optionsGiven setVariables file? {
          root? := some "/t", filters := ["sched/sched_switch", "ipi/ipi_raise"],
          verifyHeaders := false }) ∧
    (Arguments.read Request.buildRules ["-c", "table.toml"] =
        .ok [.option "config" "table.toml"] ∧
      IsAsked setVariables ["-c", "table.toml"] [.option "config" "table.toml"] ∧
      (∃ file?, FileFrom [.option "config" "table.toml"] readDocument file? ∧
        Resolves [.option "config" "table.toml"] setVariables file? {
          root? := some ⟨[0x2f, 0xff]⟩, filters := ["ipi/ipi_exit"] }) ∧
      ∀ mounted?, Command.run ["build", "-c", "table.toml"] (setVariables.take 1) readDocument
        mounted? = Command.run ["build", "-c", "table.toml"] setVariables readDocument mounted?) ∧
    (Arguments.read Request.buildRules ["--tracefs", "/t"] = .ok [.option "tracefs" "/t"] ∧
      IsAsked setVariables ["--tracefs", "/t"] [.option "tracefs" "/t"] ∧
      (∃ file?, FileFrom [.option "tracefs" "/t"] readDocument file? ∧
        Resolves [.option "tracefs" "/t"] setVariables file? {
          root? := some "/t", filters := ["ipi/ipi_exit", "power/cpu_idle"],
          verifyHeaders := false }) ∧
      ∃ settings, (ofGiven setVariables [.option "tracefs" "/t"]).settings setVariables
        readDocument = .ok settings ∧ ["ipi/ipi_exit", "power/cpu_idle"] = settings.filters) := by
  have asks {words : List OsText} {given : List Given}
      (accepted : Arguments.read Request.buildRules words = .ok given)
      (options : operands given = []) : IsAsked setVariables words given := by
    obtain ⟨meant, once⟩ := (read_eq_ok_iff unambiguous_buildRules).mp accepted
    exact ⟨meant, once, options, fun _ => by decide⟩
  have only {words : List OsText} {given : List Given} {request : BuildRequest}
      (asked : IsAsked setVariables words given)
      (read : Request.read setVariables ("build" :: words) = .ok (.build request)) :
      request = ofGiven setVariables given := by
    have own := request_eq_ok_iff.mpr ⟨given, asked, rfl⟩
    exact Request.build.inj (Except.ok.inj (read.symm.trans own))
  have agrees : AgreesElsewhere setVariables (setVariables.take 1) := by
    intro name free free'
    simp [setVariables, List.lookup_cons, beq_false_of_ne free, beq_false_of_ne free']
  refine ⟨?options, ?file, ?listed⟩
  case options =>
    have accepted : Arguments.read Request.buildRules optionWords = .ok optionsGiven := by
      decide +kernel
    have asked := asks accepted rfl
    obtain ⟨request, read, -, resolves, -, -⟩ :=
      (settings_resolves optionWords setVariables readDocument).2 _ asked
    obtain rfl := only asked read
    exact ⟨accepted, asked, resolves _ (by decide +kernel)⟩
  case file =>
    have accepted : Arguments.read Request.buildRules ["-c", "table.toml"] =
        .ok [.option "config" "table.toml"] := by decide +kernel
    have asked := asks accepted rfl
    obtain ⟨request, read, -, resolves, silent, -⟩ :=
      (settings_resolves ["-c", "table.toml"] setVariables readDocument).2 _ asked
    obtain rfl := only asked read
    exact ⟨accepted, asked, resolves _ (by decide +kernel), (silent (by decide) _ agrees).2.2⟩
  case listed =>
    have accepted : Arguments.read Request.buildRules ["--tracefs", "/t"] =
        .ok [.option "tracefs" "/t"] := by decide +kernel
    have asked := asks accepted rfl
    have held : setVariables.Holds filtersVariable " ipi/ipi_exit ,, power/cpu_idle," := by
      rw [Environment.Holds]
      decide
    have lists : Lists " ipi/ipi_exit ,, power/cpu_idle,".toList
        ["ipi/ipi_exit", "power/cpu_idle"] := filtersOf_eq_iff.mp (by decide)
    obtain ⟨request, read, -, resolves, -, back⟩ :=
      (settings_resolves ["--tracefs", "/t"] setVariables readDocument).2 _ asked
    obtain rfl := only asked read
    obtain ⟨settings, succeeded, -, unique, -⟩ := back (by decide) (by decide) _ held
    exact ⟨accepted, asked, resolves _ (by decide +kernel), settings, succeeded, unique _ lists⟩

end BuildRequest

end TraceLayout
