import TraceLayout.Text.OsText
import TraceLayout.Text.Printable

/-! Texts between double quotes, on one line and with escapes for what cannot be shown as it is. -/
namespace TraceLayout

namespace Text

/-- A character inside quotes. -/
def quotedChar (c : Char) : List Char :=
  match c with
  | '\x00' => ['\\', '0']
  | '\t' => ['\\', 't']
  | '\r' => ['\\', 'r']
  | '\n' => ['\\', 'n']
  | '"' => ['\\', '"']
  | '\\' => ['\\', '\\']
  | c =>
    if isPrintable c then [c]
    else ['\\', 'u', '\x7b'] ++ Nat.toDigits 16 c.toNat ++ ['\x7d']

def quoted (text : String) : String :=
  String.ofList (['"'] ++ text.toList.flatMap quotedChar ++ ['"'])

/-- A byte inside quotes that belongs to no character. -/
def quotedByte (byte : UInt8) : List Char :=
  let digit (n : Nat) : Char := n.digitChar.toUpper
  ['\\', 'x', digit (byte.toNat / 16), digit (byte.toNat % 16)]

end Text

def OsText.quoted (os : OsText) : String :=
  String.ofList <| ['"'] ++ os.pieces.flatMap (fun
    | .char c => Text.quotedChar c
    | .stray bytes => bytes.flatMap Text.quotedByte) ++ ['"']

end TraceLayout
