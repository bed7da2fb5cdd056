import TraceLayout.Text.Hex

/-! The four kinds of strings of TOML: with escapes or literal, on one line or over several. -/
namespace TraceLayout.Toml

def isBlank (c : Char) : Bool := c == ' ' || c == '\t'

def skipBlanks (cs : List Char) : List Char := cs.dropWhile isBlank

/-- Whether a character may stand in a line: a tab, or anything but a control. -/
def isInLine (c : Char) : Bool := c == '\t' || (0x20 ≤ c.toNat && c.toNat != 0x7F)

def newline? : List Char → Option (List Char)
  | '\n' :: rest => some rest
  | '\r' :: '\n' :: rest => some rest
  | _ => none

/-- The rest of a text after any line ends and blanks. -/
def skipLines : List Char → List Char
  | ' ' :: rest => skipLines rest
  | '\t' :: rest => skipLines rest
  | '\n' :: rest => skipLines rest
  | '\r' :: '\n' :: rest => skipLines rest
  | cs => cs

/-- The character with a code point, unless it is half of a surrogate pair or beyond the last one.
-/
def charOf? (code : Nat) : Option Char :=
  if code.isValidChar then some (Char.ofNat code) else none

def readEscape : List Char → Option (Char × List Char)
  | 'u' :: a :: b :: c :: d :: rest => do
    let char ← charOf? (← Text.hex? [a, b, c, d])
    return (char, rest)
  | 'U' :: a :: b :: c :: d :: e :: f :: g :: h :: rest => do
    let char ← charOf? (← Text.hex? [a, b, c, d, e, f, g, h])
    return (char, rest)
  | 'b' :: rest => some ('\x08', rest)
  | 't' :: rest => some ('\t', rest)
  | 'n' :: rest => some ('\n', rest)
  | 'f' :: rest => some ('\x0c', rest)
  | 'r' :: rest => some ('\r', rest)
  | '"' :: rest => some ('"', rest)
  | '\\' :: rest => some ('\\', rest)
  | _ => none

/-- Reads a string up to its closing double quote. The characters so far are in `done`, the last one
first. -/
def readBasic : (fuel : Nat) → (done cs : List Char) → Option (String × List Char)
  | 0, _, _ => none
  | fuel + 1, done, cs =>
    match cs with
    | '"' :: rest => some (String.ofList done.reverse, rest)
    | '\\' :: rest => do
      let (char, rest) ← readEscape rest
      readBasic fuel (char :: done) rest
    | c :: rest => if isInLine c then readBasic fuel (c :: done) rest else none
    | [] => none

/-- Reads a literal string up to its closing quote. -/
def readLiteral (done : List Char) : List Char → Option (String × List Char)
  | '\'' :: rest => some (String.ofList done.reverse, rest)
  | c :: rest => if isInLine c then readLiteral (c :: done) rest else none
  | [] => none

/-- Reads a string over several lines up to three double quotes. One or two more of them still
belong to it. A backslash at the end of a line drops the line end and all blanks and line ends that
follow. -/
def readLongBasic : (fuel : Nat) → (done cs : List Char) → Option (String × List Char)
  | 0, _, _ => none
  | fuel + 1, done, cs =>
    match cs with
    | '"' :: '"' :: '"' :: '"' :: '"' :: rest =>
      some (String.ofList ('"' :: '"' :: done).reverse, rest)
    | '"' :: '"' :: '"' :: '"' :: rest => some (String.ofList ('"' :: done).reverse, rest)
    | '"' :: '"' :: '"' :: rest => some (String.ofList done.reverse, rest)
    | '\\' :: rest =>
      match newline? (skipBlanks rest) with
      | some rest => readLongBasic fuel done (skipLines rest)
      | none => do
        let (char, rest) ← readEscape rest
        readLongBasic fuel (char :: done) rest
    | '\n' :: rest => readLongBasic fuel ('\n' :: done) rest
    | '\r' :: '\n' :: rest => readLongBasic fuel ('\n' :: done) rest
    | c :: rest => if isInLine c then readLongBasic fuel (c :: done) rest else none
    | [] => none

/-- Reads a literal string over several lines up to three quotes. One or two more of them still
belong to it. -/
def readLongLiteral (done : List Char) : List Char → Option (String × List Char)
  | '\'' :: '\'' :: '\'' :: '\'' :: '\'' :: rest =>
    some (String.ofList ('\'' :: '\'' :: done).reverse, rest)
  | '\'' :: '\'' :: '\'' :: '\'' :: rest => some (String.ofList ('\'' :: done).reverse, rest)
  | '\'' :: '\'' :: '\'' :: rest => some (String.ofList done.reverse, rest)
  | '\n' :: rest => readLongLiteral ('\n' :: done) rest
  | '\r' :: '\n' :: rest => readLongLiteral ('\n' :: done) rest
  | c :: rest => if isInLine c then readLongLiteral (c :: done) rest else none
  | [] => none

def dropNewline (cs : List Char) : List Char := (newline? cs).getD cs

/-- Reads a string of any kind, starting at its opening quote. -/
def readString (cs : List Char) : Option (String × List Char) :=
  match cs with
  | '"' :: '"' :: '"' :: rest => readLongBasic rest.length.succ [] (dropNewline rest)
  | '\'' :: '\'' :: '\'' :: rest => readLongLiteral [] (dropNewline rest)
  | '"' :: rest => readBasic rest.length.succ [] rest
  | '\'' :: rest => readLiteral [] rest
  | _ => none

end TraceLayout.Toml
