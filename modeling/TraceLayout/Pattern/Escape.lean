import TraceLayout.Pattern.Modes
import TraceLayout.Text.Hex

/-! The smallest parts of a regular expression: characters, classes with a name, and assertions. No
tables of character properties are at hand, so what would need one is refused. -/
namespace TraceLayout.Pattern

inductive Atom
  /-- A character. It counts as a byte where a pattern matches bytes, if it is written as one. -/
  | char (code : Nat) (asByte : Bool)
  /-- The digits, the white space or the characters of words, or all but these. -/
  | named (negated : Bool)
  | edge
  /-- The start or the end of a word, or any place but these. -/
  | wordEdge
  deriving DecidableEq, Repr

/-- Whether a character has a meaning of its own somewhere in a regular expression. -/
def isMeta (c : Char) : Bool := "\\.+*?()|[]\x7b\x7d^$#&-~".toList.contains c

/-- Whether a backslash takes the meaning from a character. Letters and digits are left for other
escapes. -/
def isEscapable (c : Char) : Bool :=
  isMeta c || c.toNat < 0x80 && !c.isAlphanum && c != '<' && c != '>'

def control? : Char → Option Nat
  | 'a' => some 0x07
  | 'f' => some 0x0C
  | 't' => some 0x09
  | 'n' => some 0x0A
  | 'r' => some 0x0D
  | 'v' => some 0x0B
  | _ => none

/-- How many hexadecimal digits follow a letter behind a backslash. -/
def hexLength? : Char → Option Nat
  | 'x' => some 2
  | 'u' => some 4
  | 'U' => some 8
  | _ => none

def readHex (modes : Modes) (value : Nat) : (count : Nat) → List Char → Option (Nat × List Char)
  | 0, cs => some (value, cs)
  | count + 1, cs =>
    match modes.skip cs with
    | [] => none
    | c :: rest => do readHex modes (value * 16 + (← Text.hexDigit? c)) count rest

def readEscape (modes : Modes) : List Char → Option (Atom × List Char)
  | [] => none
  | c :: rest =>
    match hexLength? c, control? c with
    | some count, _ => do
      let (code, rest) ← readHex modes 0 count rest
      if code.isValidChar then some (.char code (count = 2), rest) else none
    | none, some code => some (.char code false, rest)
    | none, none =>
      if c = 'd' ∨ c = 's' ∨ c = 'w' then some (.named false, rest)
      else if c = 'D' ∨ c = 'S' ∨ c = 'W' then some (.named true, rest)
      else if c = 'A' ∨ c = 'z' then some (.edge, rest)
      else if c = 'b' ∨ c = 'B' ∨ c = '<' ∨ c = '>' then some (.wordEdge, rest)
      else if isEscapable c then some (.char c.toNat false, rest)
      else none

/-- Whether an atom can be matched in some modes. A match ends between characters, and the letters
of another case and the classes of all scripts are not known. -/
def Atom.isKnown (modes : Modes) : Atom → Bool
  | .char code asByte => if modes.unicode then !modes.anyCase else !asByte || code < 0x80
  | .named negated => !modes.unicode && !negated
  | .edge => true
  | .wordEdge => !modes.unicode

/-- Whether an atom can be an item of a class in some modes. -/
def Atom.isItem (modes : Modes) (atom : Atom) : Bool :=
  match atom with
  | .char code _ => atom.isKnown modes && (modes.unicode || code < 0x80)
  | .named _ => atom.isKnown modes
  | .edge | .wordEdge => false

end TraceLayout.Pattern
