/-! Text for a terminal: columns of a width, styles that escape sequences turn on and off, and texts
that leave the terminal alone. -/
namespace TraceLayout

/-- How a piece of text stands out. -/
inductive Style
  | heading | success | failure | remark | omission
  deriving DecidableEq, Repr

namespace Terminal

/-- The parameters of a style's escape sequence. All styles are bold. -/
def parameters : Style → String
  | .heading => "1;4"
  | .success => "1;32"
  | .failure => "1;31"
  | .remark => "1;34"
  | .omission => "1;33"

def start (style : Style) : String := "\x1b[" ++ parameters style ++ "m"

def reset : String := "\x1b[0m"

/-- Puts a sequence behind every reset in a text, so that what follows keeps its style. -/
def resumed (sequence : List Char) : List Char → List Char
  | '\x1b' :: '[' :: '0' :: 'm' :: rest => reset.toList ++ sequence ++ resumed sequence rest
  | c :: rest => c :: resumed sequence rest
  | [] => []

def styled (styles : Bool) (style : Style) (text : String) : String :=
  if styles then
    start style ++ String.ofList (resumed (start style).toList text.toList) ++ reset
  else text

/-- What is shown for a character, so that a terminal takes no control or sequence from it. -/
def inertChar (c : Char) : List Char :=
  match c with
  | '\x1b' => "\\x1b".toList
  | '\x07' => "\\x07".toList
  | '\x08' => "\\x08".toList
  | '\x0c' => "\\x0c".toList
  | '\x7f' => "\\x7f".toList
  | c =>
    if 0x80 ≤ c.toNat ∧ c.toNat ≤ 0x9F then
      ['\\', 'u', '\x7b'] ++ Nat.toDigits 16 c.toNat ++ ['\x7d']
    else [c]

/-- A text that a terminal shows without acting on it. -/
def inert (text : String) : String := String.ofList (text.toList.flatMap inertChar)

private def spaces (count : Nat) : String := String.ofList (List.replicate count ' ')

def padRight (width : Nat) (text : String) : String := text ++ spaces (width - text.length)

def padLeft (width : Nat) (text : String) : String := spaces (width - text.length) ++ text

end TraceLayout.Terminal
