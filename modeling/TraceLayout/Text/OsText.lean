/-! Texts of the operating system, such as paths and the words of a command line. They are bytes,
most often in UTF-8 but not always. -/
namespace TraceLayout

/-- The bytes of a text in UTF-8. -/
def Text.bytes (text : String) : List UInt8 := text.toUTF8.data.toList

/-- A text of the operating system. -/
@[ext]
structure OsText where
  bytes : List UInt8
  deriving DecidableEq, Repr

namespace OsText

def ofString (text : String) : OsText := ⟨Text.bytes text⟩

instance : Coe String OsText := ⟨ofString⟩

instance : Append OsText := ⟨fun front back => ⟨front.bytes ++ back.bytes⟩⟩

/-- The text that is encoded, if the bytes are UTF-8. -/
def text? (os : OsText) : Option String := String.fromUTF8? os.bytes.toByteArray

/-- What can be told apart in bytes that need not be UTF-8: characters, and the bytes between them.
-/
inductive Piece
  | char (c : Char)
  | stray (bytes : List UInt8)
  deriving DecidableEq, Repr

def firstChar? (bytes : List UInt8) : Option Char := (bytes.take 4).toByteArray.utf8DecodeChar? 0

/-- Whether bytes begin a character that goes on after them. -/
def isBroken (bytes : List UInt8) : Bool :=
  (firstChar? (bytes ++ [0x80])).isSome || (firstChar? (bytes ++ [0x80, 0x80])).isSome

/-- Where no character stands, all bytes belong together that could begin one. -/
def strayLength (bytes : List UInt8) : Nat :=
  if isBroken (bytes.take 3) then 3 else if isBroken (bytes.take 2) then 2 else 1

/-- The pieces of bytes after some that belong to an earlier piece. -/
def piecesAfter (taken : Nat) : List UInt8 → List Piece
  | [] => []
  | byte :: rest =>
    match taken, firstChar? (byte :: rest) with
    | taken + 1, _ => piecesAfter taken rest
    | 0, some c => .char c :: piecesAfter (c.utf8Size - 1) rest
    | 0, none =>
      let length := strayLength (byte :: rest)
      .stray ((byte :: rest).take length) :: piecesAfter (length - 1) rest

def pieces (os : OsText) : List Piece := piecesAfter 0 os.bytes

/-- The text that is shown for bytes. What is no character is shown as the replacement character. -/
def shown (os : OsText) : String :=
  String.ofList <| os.pieces.map fun
    | .char c => c
    | .stray _ => '\uFFFD'

end TraceLayout.OsText
