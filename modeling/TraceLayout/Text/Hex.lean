/-! Hexadecimal digits, with letters of either case. -/
namespace TraceLayout.Text

def hexDigit? (c : Char) : Option Nat :=
  if '0' ≤ c && c ≤ '9' then some (c.toNat - '0'.toNat)
  else if 'a' ≤ c && c ≤ 'f' then some (c.toNat - 'a'.toNat + 10)
  else if 'A' ≤ c && c ≤ 'F' then some (c.toNat - 'A'.toNat + 10)
  else none

/-- The value of hexadecimal digits, if there are some and nothing else. -/
def hex? (digits : List Char) : Option Nat :=
  if digits = [] then none
  else digits.foldlM (fun value digit => (hexDigit? digit).map (value * 16 + ·)) 0

end TraceLayout.Text
