import TraceLayout.Json.Value
import TraceLayout.Text.Hex

/-! Reading JSON texts by the grammar of RFC 8259. Each reader takes what it can from the front of a
text and returns the rest. A text is one value with white space around it. -/
namespace TraceLayout.Json

/-- The white space of JSON, which is less than that of Unicode. -/
def isSpace (c : Char) : Bool := c == ' ' || c == '\t' || c == '\n' || c == '\r'

def skipSpace (cs : List Char) : List Char := cs.dropWhile isSpace

/-- The character that stands after a backslash for another one. -/
def escaped? : Char → Option Char
  | '"' => some '"'
  | '\\' => some '\\'
  | '/' => some '/'
  | 'b' => some '\x08'
  | 'f' => some '\x0c'
  | 'n' => some '\n'
  | 'r' => some '\r'
  | 't' => some '\t'
  | _ => none

def isFirstHalf (unit : Nat) : Bool := 0xD800 ≤ unit && unit ≤ 0xDBFF

def isSecondHalf (unit : Nat) : Bool := 0xDC00 ≤ unit && unit ≤ 0xDFFF

def ofSurrogates (high low : Nat) : Char :=
  Char.ofNat (0x10000 + (high - 0xD800) * 0x400 + (low - 0xDC00))

/-- The text of code units, of which the last one comes first, in front of the characters after
them. Both halves of a surrogate pair have to stand side by side. -/
def textOf? (after : List Char) : List Nat → Option String
  | [] => some (String.ofList after)
  | unit :: units =>
    if isFirstHalf unit then none
    else if isSecondHalf unit then
      match units with
      | high :: units =>
        if isFirstHalf high then textOf? (ofSurrogates high unit :: after) units else none
      | [] => none
    else textOf? (Char.ofNat unit :: after) units

/-- Reads the code units of a string up to its closing quote. An escape may stand for any unit. The
units so far are in `done`, the last one first. -/
def readUnits (done : List Nat) : List Char → Option (List Nat × List Char)
  | '"' :: rest => some (done, rest)
  | '\\' :: 'u' :: a :: b :: c :: d :: rest => do
    let unit ← Text.hex? [a, b, c, d]
    readUnits (unit :: done) rest
  | '\\' :: c :: rest => do
    let char ← escaped? c
    readUnits (char.toNat :: done) rest
  | c :: rest => if 0x20 ≤ c.toNat ∧ c ≠ '\\' then readUnits (c.toNat :: done) rest else none
  | [] => none

/-- Reads a string up to its closing quote, and gives its text if it is one. -/
def readString (cs : List Char) : Option (Option String × List Char) :=
  (readUnits [] cs).map fun (units, rest) => (textOf? [] units, rest)

def readDigits (cs : List Char) : Option (List Char × List Char) :=
  match cs.span Char.isDigit with
  | ([], _) => none
  | (digits, rest) => some (digits, rest)

/-- Reads the integer part of a number, which has no leading zero unless it is zero. -/
def readInteger : List Char → Option (List Char × List Char)
  | '0' :: rest => some (['0'], rest)
  | cs => readDigits cs

def readFraction : List Char → Option (List Char × List Char)
  | '.' :: rest => (readDigits rest).map fun (digits, rest) => ('.' :: digits, rest)
  | cs => some ([], cs)

def readSign : List Char → List Char × List Char
  | '+' :: rest => (['+'], rest)
  | '-' :: rest => (['-'], rest)
  | cs => ([], cs)

def readExponent (cs : List Char) : Option (List Char × List Char) :=
  match cs with
  | mark :: rest =>
    if mark = 'e' ∨ mark = 'E' then
      let (sign, rest) := readSign rest
      (readDigits rest).map fun (digits, rest) => (mark :: sign ++ digits, rest)
    else some ([], cs)
  | [] => some ([], [])

/-- Reads a number. Only digits without a sign, a fraction or an exponent are a natural number. -/
def readNumber (cs : List Char) : Option (Json × List Char) := do
  let (minus, rest) := match cs with
    | '-' :: rest => (['-'], rest)
    | _ => ([], cs)
  let (whole, rest) ← readInteger rest
  let (fraction, rest) ← readFraction rest
  let (exponent, rest) ← readExponent rest
  if minus = [] ∧ fraction = [] ∧ exponent = [] then
    return (.natural (Nat.ofDigitChars 10 whole 0), rest)
  else
    return (.number (String.ofList (minus ++ whole ++ fraction ++ exponent)), rest)

/-- The object of members whose keys may be no texts. -/
def ofMembers (members : List (Option String × Json)) : Json :=
  match members.mapM fun (key?, value) => key?.map (·, value) with
  | some members => .object members
  | none => .unreadable

mutual

/-- Reads a value that may have space before it. Every nested value uses up one unit of fuel. -/
def readValue : Nat → List Char → Option (Json × List Char)
  | 0, _ => none
  | fuel + 1, cs =>
    match skipSpace cs with
    | 'n' :: 'u' :: 'l' :: 'l' :: rest => some (.null, rest)
    | 't' :: 'r' :: 'u' :: 'e' :: rest => some (.bool true, rest)
    | 'f' :: 'a' :: 'l' :: 's' :: 'e' :: rest => some (.bool false, rest)
    | '"' :: rest =>
      (readString rest).map fun (text?, rest) => ((text?.map .string).getD .unreadable, rest)
    | '[' :: rest =>
      match skipSpace rest with
      | ']' :: rest => some (.array [], rest)
      | _ => (readItems fuel [] rest).map fun (items, rest) => (.array items, rest)
    | '\x7b' :: rest =>
      match skipSpace rest with
      | '\x7d' :: rest => some (.object [], rest)
      | _ => (readMembers fuel [] rest).map fun (members, rest) => (ofMembers members, rest)
    | rest => readNumber rest

/-- Reads the items of an array and its closing bracket. The items so far are in `done`, the last
one first. -/
def readItems : Nat → List Json → List Char → Option (List Json × List Char)
  | 0, _, _ => none
  | fuel + 1, done, cs => do
    let (item, rest) ← readValue fuel cs
    match skipSpace rest with
    | ',' :: rest => readItems fuel (item :: done) rest
    | ']' :: rest => some ((item :: done).reverse, rest)
    | _ => none

/-- Reads the members of an object and its closing brace. The members so far are in `done`, the last
one first. -/
def readMembers : Nat → List (Option String × Json) → List Char →
    Option (List (Option String × Json) × List Char)
  | 0, _, _ => none
  | fuel + 1, done, cs =>
    match skipSpace cs with
    | '"' :: rest => do
      let (key?, rest) ← readString rest
      match skipSpace rest with
      | ':' :: rest =>
        let (value, rest) ← readValue fuel rest
        match skipSpace rest with
        | ',' :: rest => readMembers fuel ((key?, value) :: done) rest
        | '\x7d' :: rest => some (((key?, value) :: done).reverse, rest)
        | _ => none
      | _ => none
    | _ => none

end

/-- Reads a text that is one value and nothing else. No value needs more fuel than the text has
characters. -/
def parse? (text : String) : Option Json :=
  let cs := text.toList
  match readValue (2 * cs.length + 1) cs with
  | some (value, rest) => if skipSpace rest = [] then some value else none
  | none => none

end TraceLayout.Json
