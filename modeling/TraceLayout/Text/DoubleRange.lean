import TraceLayout.Text.Numeral

/-! The range of doubles, which are binary numbers with 53 digits and a bounded exponent. A decimal
literal denotes a number of any size, and one that is too large rounds to infinity. -/
namespace TraceLayout.Text

/-- The number that digits denote when they are multiplied by a power of ten. -/
structure Decimal where
  digits : Nat
  exponent : Int
  deriving DecidableEq, Repr

/-- The least number that rounds to infinity. It lies half a unit above the largest double. -/
def doubleLimit : Nat := 1 <<< 1024 - 1 <<< 970

/-- Rounds a number to 53 binary digits, and a half to the even one of its neighbours. -/
def roundToDouble (n : Nat) : Nat :=
  let unit := 1 <<< (n.log2 - 52)
  let below := n / unit
  let rest := n % unit
  if 2 * rest < unit ∨ (2 * rest = unit ∧ below % 2 = 0) then below * unit else (below + 1) * unit

/-- The digits of a decimal numeral, without what may stand between them. -/
def digitsOf (cs : List Char) : List Char := cs.filter Char.isDigit

/-- The value of an exponent, which has a sign in front of its digits or none. -/
def exponentOf (cs : List Char) : Int :=
  let value := Nat.ofDigitChars 10 (digitsOf cs) 0
  if cs.head? = some '-' then -value else value

/-- The parts of a decimal literal without a sign: the digits before the point, those after it, and
the value of its exponent. -/
def literalParts (cs : List Char) : List Char × List Char × Int :=
  let (mantissa, exponent) := cs.span fun c => c != 'e' && c != 'E'
  let (whole, fraction) := mantissa.span (· != '.')
  (digitsOf whole, digitsOf fraction, exponentOf (exponent.drop 1))

/-- The number that a decimal literal without a sign denotes. -/
def Decimal.ofLiteral (cs : List Char) : Decimal :=
  let (whole, fraction, exponent) := literalParts cs
  ⟨Nat.ofDigitChars 10 (whole ++ fraction) 0, exponent - fraction.length⟩

/-- Whether a decimal rounds to infinity. Its order of magnitude decides, unless it is that of the
limit. -/
def Decimal.isInfinite (decimal : Decimal) : Bool :=
  let magnitude := (Nat.toDigits 10 decimal.digits).length + decimal.exponent
  decimal.digits ≠ 0 && (309 < magnitude ||
    308 < magnitude && doubleLimit * Nat.pow 10 (-decimal.exponent).toNat ≤
      decimal.digits * Nat.pow 10 decimal.exponent.toNat)

end TraceLayout.Text
