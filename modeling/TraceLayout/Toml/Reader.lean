import TraceLayout.Toml.Document
import TraceLayout.Toml.Scalars

/-! Reading TOML documents line by line: a line holds a key with its value, a header, a comment or
nothing. -/
namespace TraceLayout.Toml

def isBareChar (c : Char) : Bool := c.isAlphanum || c == '-' || c == '_'

/-- Reads one part of a key: a bare word, or a string on one line. -/
def readPart (cs : List Char) : Option (String × List Char) :=
  match cs with
  | '"' :: rest => readBasic rest.length.succ [] rest
  | '\'' :: rest => readLiteral [] rest
  | _ =>
    match cs.span isBareChar with
    | ([], _) => none
    | (word, rest) => some (String.ofList word, rest)

/-- How many parts a key may have, and how deep arrays and tables in braces may stand within each
other. -/
def deepest : Nat := 79

def readParts : (room : Nat) → List Char → Option (List String × List Char)
  | 0, _ => none
  | room + 1, cs => do
    let (part, rest) ← readPart (skipBlanks cs)
    match skipBlanks rest with
    | '.' :: rest =>
      let (parts, rest) ← readParts room rest
      return (part :: parts, rest)
    | rest => return ([part], rest)

def readKey (cs : List Char) : Option (List String × List Char) := readParts deepest cs

/-- The rest of a text after a comment, if it starts with one. -/
def skipComment : List Char → List Char
  | '#' :: rest => rest.dropWhile isInLine
  | cs => cs

/-- The rest of a text after blanks, comments and line ends, as they may stand between the items of
an array. A comment has to end with its line. -/
def skipGap : (fuel : Nat) → List Char → Option (List Char)
  | 0, _ => none
  | fuel + 1, cs =>
    match skipLines cs with
    | '#' :: rest => (newline? (rest.dropWhile isInLine)).bind (skipGap fuel)
    | rest => some rest

mutual

/-- Reads a value, which stands within `depth` others. -/
def readValue : (fuel depth : Nat) → List Char → Option (Value × List Char)
  | 0, _, _ => none
  | fuel + 1, depth, cs =>
    match cs with
    | '"' :: _ => (readString cs).map fun (text, rest) => (.string text, rest)
    | '\'' :: _ => (readString cs).map fun (text, rest) => (.string text, rest)
    | '[' :: rest =>
      if depth < deepest then
        (readItems fuel (depth + 1) [] rest).map fun (items, rest) => (.array items, rest)
      else none
    | '\x7b' :: rest =>
      if depth < deepest then
        match skipBlanks rest with
        | '\x7d' :: rest => some (.table, rest)
        | rest => (readBraces fuel (depth + 1) [] rest).map fun rest => (.table, rest)
      else none
    | 't' :: 'r' :: 'u' :: 'e' :: rest => some (.bool true, rest)
    | 'f' :: 'a' :: 'l' :: 's' :: 'e' :: rest => some (.bool false, rest)
    | _ => (readScalar cs).map fun (literal, rest) => (.scalar literal, rest)

/-- Reads the items of an array and its closing bracket, in front of which a comma may stand. -/
def readItems : (fuel depth : Nat) → List Value → List Char → Option (List Value × List Char)
  | 0, _, _, _ => none
  | fuel + 1, depth, done, cs => do
    match ← skipGap cs.length.succ cs with
    | ']' :: rest => return (done.reverse, rest)
    | cs =>
      let (item, rest) ← readValue fuel depth cs
      match ← skipGap rest.length.succ rest with
      | ',' :: rest => readItems fuel depth (item :: done) rest
      | ']' :: rest => return ((item :: done).reverse, rest)
      | _ => none

/-- Reads the keys and values of a table in braces and its closing brace, all of them on one line.
-/
def readBraces : (fuel depth : Nat) → Entries → List Char → Option (List Char)
  | 0, _, _, _ => none
  | fuel + 1, depth, entries, cs => do
    let (parts, rest) ← readKey cs
    match rest with
    | '=' :: rest =>
      let (value, rest) ← readValue fuel depth (skipBlanks rest)
      let entries ← assign parts.dropLast (parts.getLast?.getD "") value entries
      match skipBlanks rest with
      | ',' :: rest => readBraces fuel depth entries rest
      | '\x7d' :: rest => return rest
      | _ => none
    | _ => none

end

/-- The rest of a text after what may follow on a line: blanks, a comment, and the line end. -/
def endLine? (cs : List Char) : Option (List Char) :=
  match skipComment (skipBlanks cs) with
  | [] => some []
  | rest => newline? rest

def readPair (document : Document) (cs : List Char) : Option (Document × List Char) := do
  let (parts, rest) ← readKey cs
  match rest with
  | '=' :: rest =>
    let (value, rest) ← readValue (2 * rest.length + 1) 0 (skipBlanks rest)
    return (← document.assign parts.dropLast (parts.getLast?.getD "") value, rest)
  | _ => none

/-- Reads a header, starting at its first bracket. -/
def readHeader (document : Document) (cs : List Char) : Option (Document × List Char) :=
  match cs with
  | '[' :: '[' :: rest => do
    let (parts, rest) ← readKey rest
    match rest with
    | ']' :: ']' :: rest =>
      return (← document.openRow parts.dropLast (parts.getLast?.getD ""), rest)
    | _ => none
  | '[' :: rest => do
    let (parts, rest) ← readKey rest
    match rest with
    | ']' :: rest => return (← document.openTable parts.dropLast (parts.getLast?.getD ""), rest)
    | _ => none
  | _ => none

/-- Reads the lines of a document. Each line uses up one unit of fuel. -/
def readLines : (fuel : Nat) → Document → List Char → Option Document
  | 0, _, _ => none
  | fuel + 1, document, cs =>
    match skipBlanks cs with
    | [] => some document
    | '[' :: rest => do
      let (document, rest) ← readHeader document ('[' :: rest)
      readLines fuel document (← endLine? rest)
    | '#' :: rest => do readLines fuel document (← endLine? ('#' :: rest))
    | rest =>
      match newline? rest with
      | some rest => readLines fuel document rest
      | none => do
        let (document, rest) ← readPair document rest
        readLines fuel document (← endLine? rest)

/-- The entries of a document, in front of which a byte order mark may stand. -/
def parse? (text : String) : Option Entries :=
  let cs := match text.toList with
    | '\ufeff' :: rest => rest
    | cs => cs
  (readLines (cs.length + 1) {} cs).bind Document.close

end TraceLayout.Toml
