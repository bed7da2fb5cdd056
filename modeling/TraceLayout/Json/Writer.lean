import TraceLayout.Json.Value

/-! Writing JSON over several lines: every item and member has a line of its own, two spaces deeper
than the value that holds it. -/
namespace TraceLayout.Json

/-- A character inside a string. Only quotes, backslashes and controls are escaped. -/
def writtenChar (c : Char) : String :=
  match c with
  | '"' => "\\\""
  | '\\' => "\\\\"
  | '\x08' => "\\b"
  | '\x0c' => "\\f"
  | '\n' => "\\n"
  | '\r' => "\\r"
  | '\t' => "\\t"
  | c =>
    if c.toNat < 0x10 then "\\u000" ++ String.ofList (Nat.toDigits 16 c.toNat)
    else if c.toNat < 0x20 then "\\u00" ++ String.ofList (Nat.toDigits 16 c.toNat)
    else c.toString

def writtenString (text : String) : String :=
  text.toList.foldl (fun written c => written ++ writtenChar c) "\"" ++ "\""

def newLine (depth : Nat) : String := "\n" ++ String.ofList (List.replicate (2 * depth) ' ')

mutual

/-- Writes a value that stands at a depth behind what is written so far. What nothing is made of
counts as null. -/
def write (depth : Nat) (written : String) : Json → String
  | .null | .unreadable => written ++ "null"
  | .bool value => written ++ toString value
  | .natural value => written ++ toString value
  | .number literal => written ++ literal
  | .string text => written ++ writtenString text
  | .array [] => written ++ "[]"
  | .array items => writeItems (depth + 1) (written ++ "[") false items ++ newLine depth ++ "]"
  | .object [] => written ++ "\x7b\x7d"
  | .object members =>
    writeMembers (depth + 1) (written ++ "\x7b") false members ++ newLine depth ++ "\x7d"

def writeItems (depth : Nat) (written : String) (comma : Bool) : List Json → String
  | [] => written
  | item :: items =>
    let start := if comma then written ++ "," else written
    writeItems depth (write depth (start ++ newLine depth) item) true items

def writeMembers (depth : Nat) (written : String) (comma : Bool) : List (String × Json) → String
  | [] => written
  | (key, value) :: members =>
    let start := if comma then written ++ "," else written
    let start := start ++ newLine depth ++ writtenString key ++ ": "
    writeMembers depth (write depth start value) true members

end

def pretty (value : Json) : String := write 0 "" value

end TraceLayout.Json
