import TraceLayout.Text.OsText

/-! Command lines: words that start with a dash are options, by a long name or by letters, and all
others are operands. A word of two dashes makes every word after it an operand. -/
namespace TraceLayout

/-- Why a command line cannot be understood. -/
inductive UsageError
  | noCommand
  | unknownCommand (word : OsText)
  | unknownOption (word : OsText)
  | missingValue (option : String)
  | unwantedValue (option : String)
  /-- The value of an option or operand should be UTF-8. -/
  | notText (name : String)
  | repeatedOption (option : String)
  | missingOperand (name : String)
  | extraOperand (word : OsText)
  deriving DecidableEq, Repr

def UsageError.message : UsageError → String
  | .noCommand => "a command is required"
  | .unknownCommand word => s!"unrecognized command '{word.shown}'"
  | .unknownOption word => s!"unexpected argument '{word.shown}'"
  | .missingValue option => s!"a value is required for '--{option}'"
  | .unwantedValue option => s!"no value is allowed for '--{option}'"
  | .notText name => s!"the value of {name} is not UTF-8"
  | .repeatedOption option => s!"'--{option}' cannot be used more than once"
  | .missingOperand name => s!"the operand {name} is required"
  | .extraOperand word => s!"unexpected operand '{word.shown}'"

/-- An option that a command takes. -/
structure OptionRule where
  long : String
  letter? : Option UInt8 := none
  takesValue : Bool := true
  repeatable : Bool := false
  /-- Whether the value may be empty. -/
  emptyValue : Bool := false
  /-- Whether the value has to be UTF-8. -/
  textValue : Bool := false
  deriving DecidableEq, Repr

/-- What a word of a command line says. -/
inductive Given
  | option (long : String) (value : OsText)
  | operand (word : OsText)
  deriving DecidableEq, Repr

namespace Arguments

def dash : UInt8 := '-'.toUInt8

def equals : UInt8 := '='.toUInt8

/-- What a word is by its dashes. One dash alone is an operand. -/
inductive Shape
  | operand
  | twoDashes
  | long (name : List UInt8)
  | letters (letters : List UInt8)
  deriving DecidableEq, Repr

def shape (word : OsText) : Shape :=
  match word.bytes with
  | first :: second :: rest =>
    if first ≠ dash then .operand
    else if second ≠ dash then .letters (second :: rest)
    else if rest = [] then .twoDashes
    else .long rest
  | _ => .operand

def attached (rule : OptionRule) (value : OsText) : Except UsageError Given :=
  if value = "" ∧ !rule.emptyValue then .error (.missingValue rule.long)
  else if rule.textValue ∧ value.text?.isNone then .error (.notText ("--" ++ rule.long))
  else .ok (.option rule.long value)

def following (rule : OptionRule) : List OsText → Except UsageError Given
  | [] => .error (.missingValue rule.long)
  | word :: _ =>
    if shape word = .operand then attached rule word else .error (.missingValue rule.long)

/-- What the letters after a single dash say, and whether the last of them takes the next word as
its value. -/
def letters (rules : List OptionRule) (next : List OsText) :
    List UInt8 → Except UsageError (List Given × Bool)
  | [] => .ok ([], false)
  | letter :: rest =>
    match rules.find? (·.letter? == some letter) with
    | none => .error (.unknownOption ⟨dash :: letter :: rest⟩)
    | some rule =>
      if rule.takesValue then
        match rest with
        | [] => (following rule next).map fun given => ([given], true)
        | first :: value =>
          (attached rule ⟨if first = equals then value else rest⟩).map fun given => ([given], false)
      else do
        let (given, taken) ← letters rules next rest
        return (.option rule.long "" :: given, taken)

/-- What a word after two dashes says, and whether it takes the next word as its value. -/
def long (rules : List OptionRule) (next : List OsText) (word : List UInt8) :
    Except UsageError (Given × Bool) :=
  let (name, value) := word.span (· != equals)
  match rules.find? (Text.bytes ·.long == name), value with
  | none, _ => .error (.unknownOption ("--" ++ ⟨name⟩))
  | some rule, _ :: value =>
    if rule.takesValue then (attached rule ⟨value⟩).map fun given => (given, false)
    else .error (.unwantedValue rule.long)
  | some rule, [] =>
    if rule.takesValue then (following rule next).map fun given => (given, true)
    else .ok (.option rule.long "", false)

/-- What the words of a command line say, one after another. The first word is the value of an
option before it if `taken` holds, and then says nothing more. -/
def scan (rules : List OptionRule) (taken : Bool) : List OsText → Except UsageError (List Given)
  | [] => .ok []
  | word :: words =>
    if taken then scan rules false words
    else match shape word with
      | .operand => do return .operand word :: (← scan rules false words)
      | .twoDashes => .ok (words.map .operand)
      | .long name => do
        let (given, taken) ← long rules words name
        return given :: (← scan rules taken words)
      | .letters cluster => do
        let (given, taken) ← letters rules words cluster
        return given ++ (← scan rules taken words)

def valuesOf (option : String) (given : List Given) : List OsText :=
  given.filterMap fun
    | .option long value => if long = option then some value else none
    | .operand _ => none

def operands (given : List Given) : List OsText :=
  given.filterMap fun
    | .operand word => some word
    | .option _ _ => none

def has (option : String) (given : List Given) : Bool := !(valuesOf option given).isEmpty

/-- Understands a command line by the rules of its options, of which most are given once at most. -/
def read (rules : List OptionRule) (words : List OsText) : Except UsageError (List Given) := do
  let given ← scan rules false words
  match rules.find? fun rule => !rule.repeatable && 1 < (valuesOf rule.long given).length with
  | some rule => .error (.repeatedOption rule.long)
  | none => return given

end TraceLayout.Arguments
