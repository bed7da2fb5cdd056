/-! Decimal numerals as tracefs prints them: ASCII digits, with an optional plus sign, within a
bound. A numeral has any number of leading zeros, and neither white space nor a minus sign. -/
namespace TraceLayout.Text

/-- The digits of a numeral: what is left of it after an optional plus sign. -/
def unsignedPart : List Char → List Char
  | '+' :: digits => digits
  | digits => digits

/-- The value of an unsigned numeral, of any size. -/
def numeral? (cs : List Char) : Option Nat :=
  let digits := unsignedPart cs
  if digits ≠ [] ∧ digits.all Char.isDigit then some (Nat.ofDigitChars 10 digits 0) else none

/-- The value of a numeral that fits sixteen bits. -/
def word? (cs : List Char) : Option UInt16 :=
  (numeral? cs).bind fun n =>
    if fits : n < UInt16.size then some (UInt16.ofNatLT n fits) else none

end TraceLayout.Text
