import TraceLayout.Json.Value
import TraceLayout.Text.DoubleRange

/-! What a value has to satisfy to be kept as it is, before anything is made of it: its strings are
texts, its numbers are within the range of doubles, and it is not nested too deep. -/
namespace TraceLayout.Json

/-- The largest number that the digits of a number are collected in. -/
def largestDigits : Nat := UInt64.size - 1

/-- Collects digits behind a number as long as the result is not too large, and counts the others.
-/
def collectDigits (value : Nat) : List Char → Nat × Nat
  | [] => (value, 0)
  | digit :: digits =>
    let next := value * 10 + (digit.toNat - '0'.toNat)
    if next ≤ largestDigits then collectDigits next digits else (value, digits.length + 1)

/-- The decimal that is made of a literal: its first digits, which fit 64 bits, at their place. -/
def collected (literal : List Char) : Text.Decimal :=
  let (whole, fraction, exponent) := Text.literalParts literal
  let (digits, left) := collectDigits 0 whole
  let (digits, dropped) := collectDigits digits fraction
  ⟨digits, exponent + left - (fraction.length - dropped : Nat)⟩

/-- Whether the number of a literal is a double. The digits and the power of ten that they are
multiplied by are rounded before the product is. -/
def isFinite (literal : List Char) : Bool :=
  let decimal := collected literal
  let scale := decimal.exponent
  decimal.digits = 0 || scale ≤ 0 ||
    scale ≤ 308 &&
      Text.roundToDouble decimal.digits * Text.roundToDouble (Nat.pow 10 scale.toNat) < Text.doubleLimit

/-- How deep arrays and objects may stand within each other in a text. -/
def deepest : Nat := 127

mutual

/-- Whether a value can be kept, and nests no more than `room` arrays and objects if that is a
number of them. -/
def canKeep (room : Option Nat) : Json → Bool
  | .null | .bool _ | .string _ => true
  | .natural value => isFinite (Nat.toDigits 10 value)
  | .number literal => isFinite literal.toList
  | .array items => room ≠ some 0 && canKeepItems (room.map (· - 1)) items
  | .object members => room ≠ some 0 && canKeepMembers (room.map (· - 1)) members
  | .unreadable => false

def canKeepItems (room : Option Nat) : List Json → Bool
  | [] => true
  | item :: items => canKeep room item && canKeepItems room items

def canKeepMembers (room : Option Nat) : List (String × Json) → Bool
  | [] => true
  | (_, value) :: members => canKeep room value && canKeepMembers room members

end

end TraceLayout.Json
