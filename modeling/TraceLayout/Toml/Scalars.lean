import TraceLayout.Text.DoubleRange
import TraceLayout.Toml.Strings

/-! Integers, floats and points in time. A document of settings only has to know which words are
scalars. -/
namespace TraceLayout.Toml

def isScalarChar (c : Char) : Bool :=
  c.isAlphanum || c == '+' || c == '-' || c == '.' || c == ':' || c == '_'

/-- Whether digits stand in groups of at least one, with one underscore between groups. -/
def isGrouped (isDigit : Char → Bool) (cs : List Char) : Bool :=
  (cs.splitOn '_').all fun group => group != [] && group.all isDigit

def isHex (c : Char) : Bool := (Text.hexDigit? c).isSome

def isOctal (c : Char) : Bool := '0' ≤ c && c ≤ '7'

def isBinary (c : Char) : Bool := c == '0' || c == '1'

def dropSign : List Char → List Char
  | '+' :: rest => rest
  | '-' :: rest => rest
  | cs => cs

/-- Whether a word is a decimal integer of any size without a sign. Only zero starts with a zero. -/
def isWhole (cs : List Char) : Bool :=
  isGrouped Char.isDigit cs && (cs.head? != some '0' || cs == ['0'])

/-- The value of digits to a base. Underscores between them say nothing. -/
def valueOf (base : Nat) (cs : List Char) : Nat :=
  cs.foldl (fun value c => ((Text.hexDigit? c).map (value * base + ·)).getD value) 0

/-- Whether a word is an integer that fits 64 bits. Only decimal integers have a sign. -/
def isInteger (cs : List Char) : Bool :=
  match cs with
  | '0' :: 'x' :: digits => isGrouped isHex digits && valueOf 16 digits < 1 <<< 63
  | '0' :: 'o' :: digits => isGrouped isOctal digits && valueOf 8 digits < 1 <<< 63
  | '0' :: 'b' :: digits => isGrouped isBinary digits && valueOf 2 digits < 1 <<< 63
  | '-' :: digits => isWhole digits && valueOf 10 digits ≤ 1 <<< 63
  | _ => isWhole (dropSign cs) && valueOf 10 (dropSign cs) < 1 <<< 63

/-- Whether a word is the exponent of a float, or nothing. -/
def isExponent : List Char → Bool
  | [] => true
  | mark :: digits => (mark == 'e' || mark == 'E') && isGrouped Char.isDigit (dropSign digits)

/-- Whether a word without a sign is a whole number with a fraction or an exponent. -/
def isFraction (cs : List Char) : Bool :=
  let (whole, rest) := cs.span fun c => c.isDigit || c == '_'
  isWhole whole && match rest with
    | '.' :: rest =>
      let (fraction, rest) := rest.span fun c => c.isDigit || c == '_'
      isGrouped Char.isDigit fraction && isExponent rest
    | [] => false
    | rest => isExponent rest

/-- Whether a word is a float: digits, or a name for infinity or what is no number. Digits may stand
for what rounds to infinity only below zero. -/
def isFloat (cs : List Char) : Bool :=
  let digits := dropSign cs
  digits == "inf".toList || digits == "nan".toList ||
    isFraction digits &&
      (cs.head? == some '-' || !(Text.Decimal.ofLiteral digits).isInfinite)

def pair? (a b : Char) : Option Nat :=
  if a.isDigit && b.isDigit then some (valueOf 10 [a, b]) else none

def daysIn (year month : Nat) : Nat :=
  if month = 2 then (if year % 4 = 0 ∧ (year % 100 ≠ 0 ∨ year % 400 = 0) then 29 else 28)
  else if month = 4 ∨ month = 6 ∨ month = 9 ∨ month = 11 then 30
  else 31

/-- Reads a day of the calendar and returns the rest. -/
def readDate : List Char → Option (List Char)
  | a :: b :: c :: d :: '-' :: e :: f :: '-' :: g :: h :: rest => do
    let year := (← pair? a b) * 100 + (← pair? c d)
    let month ← pair? e f
    let day ← pair? g h
    if 1 ≤ month ∧ month ≤ 12 ∧ 1 ≤ day ∧ day ≤ daysIn year month then some rest else none
  | _ => none

/-- Reads a time of the day, which may have a fraction of a second and a leap second, and returns
the rest. -/
def readTime : List Char → Option (List Char)
  | a :: b :: ':' :: c :: d :: ':' :: e :: f :: rest => do
    if (← pair? a b) ≤ 23 ∧ (← pair? c d) ≤ 59 ∧ (← pair? e f) ≤ 60 then
      match rest with
      | '.' :: rest =>
        if rest.head?.any Char.isDigit then some (rest.dropWhile Char.isDigit) else none
      | rest => some rest
    else none
  | _ => none

/-- Whether a word is an offset from universal time, or nothing. -/
def isOffset : List Char → Bool
  | [] => true
  | [c] => c == 'Z' || c == 'z'
  | [sign, a, b, ':', c, d] =>
    (sign == '+' || sign == '-') && (pair? a b).any (· ≤ 23) && (pair? c d).any (· ≤ 59)
  | _ => false

/-- Whether a word is a day, a time, or both with a letter or a space between them. -/
def isMoment (cs : List Char) : Bool :=
  match readDate cs with
  | some [] => true
  | some (mark :: rest) =>
    (mark == 'T' || mark == 't' || mark == ' ') && (readTime rest).any isOffset
  | none => readTime cs == some []

/-- Reads the longest word that could be a scalar. A space may join a day and a time. -/
def scalarWord (cs : List Char) : List Char × List Char :=
  let (word, rest) := cs.span isScalarChar
  match readDate word, rest with
  | some [], ' ' :: digit :: more =>
    if digit.isDigit then
      let (time, rest) := (digit :: more).span isScalarChar
      (word ++ ' ' :: time, rest)
    else (word, rest)
  | _, _ => (word, rest)

/-- Reads an integer, a float or a point in time. -/
def readScalar (cs : List Char) : Option (String × List Char) :=
  let (word, rest) := scalarWord cs
  if isInteger word || isFloat word || isMoment word then some (String.ofList word, rest) else none

end TraceLayout.Toml
