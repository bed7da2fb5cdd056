import TraceLayout.Log.FieldTest
import TraceLayout.Text.Numeral

/-! The rules of a log filter. A rule has a channel, a span and a field in brackets and braces
behind it, and after an equals sign a threshold, and most of this may be left out. -/
namespace TraceLayout

/-- A threshold for the notices that have a field, of the channels whose names begin with a text.
Without a field or a channel, it is one for all of them. -/
structure LogRule where
  channel? : Option (List Char) := none
  field? : Option (List Char) := none
  threshold : Nat
  deriving DecidableEq, Repr

namespace LogRule

/-- The names of the thresholds, from the one that admits nothing. -/
def thresholdNames : List String := ["off", "error", "warn", "info", "debug", "trace"]

def everything : Nat := 5

/-- The threshold of a numeral, or of a name in letters of either case. -/
def threshold? (word : List Char) : Option Nat :=
  match Text.numeral? word with
  | some n => if n ≤ everything then some n else none
  | none => thresholdNames.findIdx? (· == String.ofList (word.map Char.toLower))

/-- The characters of a text whose places are at least `start` and less than `stop`. A place is a
number of bytes. -/
def cut (start stop : Nat) : (place : Nat) → List Char → List Char
  | _, [] => []
  | place, c :: cs =>
    let rest := cut start stop (place + c.utf8Size) cs
    if start ≤ place ∧ place < stop then c :: rest else rest

def cutFrom (start : Nat) (text : List Char) : List Char :=
  cut start (String.ofList text).utf8ByteSize 0 text

/-- What the reader of a rule is in, with the place where this began. -/
inductive Phase
  | opening
  /-- A channel, or a threshold without one. -/
  | word (start : Nat)
  | span (start : Nat)
  | field (start : Nat)
  | afterField
  | afterSpan
  | threshold (start : Nat)
  deriving DecidableEq, Repr

/-- A rule that has been read up to some place. -/
structure Draft where
  phase : Phase := .opening
  channel? : Option (List Char) := none
  inSpan : Bool := false
  field? : Option FieldTest := none
  deriving DecidableEq, Repr

/-- Whether a rule may start with a character, other than with a bracket. -/
def isWordStart (c : Char) : Bool := c == '-' || c == ':' || c == '_' || Text.isAlphanumeric c

/-- Reads the character at a place. Parts are cut from `text`. -/
def Draft.step (text : List Char) (draft : Draft) (place : Nat) (c : Char) : Option Draft :=
  match draft.phase, c with
  | .opening, '[' => some { draft with phase := .span (place + 1) }
  | .opening, c => if isWordStart c then some { draft with phase := .word place } else none
  | .word start, '=' =>
    some { draft with phase := .threshold (place + 1), channel? := cut start place 0 text }
  | .word start, '[' =>
    some { draft with phase := .span (place + 1), channel? := cut start place 0 text }
  | .span _, ']' => some { draft with phase := .afterSpan, inSpan := true }
  | .span start, '\x7b' =>
    some { draft with phase := .field (place + 1), inSpan := cut start place 0 text != [] }
  | .field start, '\x7d' =>
    match cut start place 0 text with
    | [] => none
    | field => do return { draft with phase := .afterField, field? := ← FieldTest.read? field }
  | .afterField, ']' => some { draft with phase := .afterSpan }
  | .afterField, _ => none
  | .afterSpan, '=' => some { draft with phase := .threshold (place + 1) }
  | .afterSpan, _ => none
  | .word _, _ | .span _, _ | .field _, _ | .threshold _, _ => some draft

def Draft.steps (text : List Char) (draft : Draft) : (place : Nat) → List Char → Option Draft
  | _, [] => some draft
  | place, c :: cs => do (← draft.step text place c).steps text (place + c.utf8Size) cs

/-- The rule of a draft for notices. They lie in no span, and only spans can have a value that is
asked for, so a rule for either says nothing. -/
def Draft.rules (draft : Draft) (threshold : Nat) : List LogRule :=
  if draft.inSpan ∨ draft.field?.any (·.hasValue) then []
  else [⟨draft.channel?, draft.field?.map (·.name), threshold⟩]

/-- Finishes a rule at the end of its text. A rule without a threshold admits everything. -/
def Draft.finish (text : List Char) (draft : Draft) : Option (List LogRule) :=
  match draft.phase with
  | .word start =>
    let word := cutFrom start text
    match threshold? word with
    | some threshold => some [{ threshold }]
    | none => some [{ channel? := word, threshold := everything }]
  | .threshold start =>
    match cutFrom start text with
    | [] => some (draft.rules everything)
    | word => (threshold? word).map draft.rules
  | .afterSpan => some (draft.rules everything)
  | _ => none

/-- Reads a rule. Places are counted without the white space around a rule, but parts are cut from
the text as it is, so white space in front of a rule shifts them. -/
def read (text : List Char) : Option (List LogRule) := do
  (← Draft.steps text {} 0 (Text.trim text)).finish text

end TraceLayout.LogRule
