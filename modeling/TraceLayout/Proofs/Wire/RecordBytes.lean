import Mathlib.Algebra.Order.Ring.Nat
import Mathlib.Tactic.Ring

/-! Integers in the bytes of a record. Bytes denote a number with the lowest byte first, a signed
integer is negative if the highest bit is set, and bytes that are added at the high end, zeros or
copies of the sign, leave the integer as it is. -/
namespace TraceLayout

/-- The order in which a kernel stores the bytes of an integer. -/
inductive ByteOrder
  | little | big
  deriving DecidableEq, Repr

/-- Stored bytes with the lowest first. -/
def ByteOrder.lowFirst : ByteOrder → List UInt8 → List UInt8
  | .little, bytes => bytes
  | .big, bytes => bytes.reverse

@[simp]
theorem ByteOrder.length_lowFirst (order : ByteOrder) (bytes : List UInt8) :
    (order.lowFirst bytes).length = bytes.length := by
  cases order <;> simp [lowFirst]

namespace RecordBytes

def magnitude : List UInt8 → Nat
  | [] => 0
  | byte :: bytes => byte.toNat + 256 * magnitude bytes

/-- Whether the highest bit is set. -/
def isNegative (bytes : List UInt8) : Bool := bytes.getLast?.any (128 ≤ ·)

/-- The integer that bytes denote, in two's complement if it is signed. -/
def integer (signed : Bool) (bytes : List UInt8) : Int :=
  if signed && isNegative bytes then magnitude bytes - 256 ^ bytes.length else magnitude bytes

/-- Adds bytes at the high end up to a length. -/
def padded (fill : UInt8) (length : Nat) (bytes : List UInt8) : List UInt8 :=
  bytes ++ List.replicate (length - bytes.length) fill

/-- The byte that repeats the highest bit. -/
def signFill (bytes : List UInt8) : UInt8 := if isNegative bytes then 255 else 0

theorem magnitude_lt (bytes : List UInt8) : magnitude bytes < 256 ^ bytes.length := by
  induction bytes with
  | nil => decide
  | cons byte bytes ih =>
    have small := byte.toNat_lt
    rw [magnitude, List.length_cons, Nat.pow_succ]
    omega

theorem magnitude_append (low high : List UInt8) :
    magnitude (low ++ high) = magnitude low + 256 ^ low.length * magnitude high := by
  induction low with
  | nil => simp [magnitude]
  | cons byte low ih =>
    rw [List.cons_append, magnitude, magnitude, ih, List.length_cons]
    ring

theorem magnitude_replicate_zero (n : Nat) : magnitude (List.replicate n 0) = 0 := by
  induction n with
  | zero => rfl
  | succ n ih => simp [List.replicate_succ, magnitude, ih]

theorem magnitude_replicate_ones (n : Nat) : magnitude (List.replicate n 255) + 1 = 256 ^ n := by
  induction n with
  | zero => rfl
  | succ n ih =>
    rw [List.replicate_succ, magnitude, Nat.pow_succ, ← ih]
    have ones : UInt8.toNat 255 = 255 := rfl
    omega

/-- The highest bit is set exactly if the number is in the upper half of its range. -/
theorem isNegative_iff (bytes : List UInt8) :
    isNegative bytes = true ↔ 256 ^ bytes.length ≤ 2 * magnitude bytes := by
  induction bytes with
  | nil => simp [isNegative, magnitude]
  | cons byte bytes ih =>
    have small := byte.toNat_lt
    cases bytes with
    | nil =>
      simp only [isNegative, List.getLast?_singleton, Option.any_some, decide_eq_true_eq,
        UInt8.le_iff_toNat_le, magnitude, List.length_singleton]
      have top : UInt8.toNat 128 = 128 := rfl
      omega
    | cons next rest =>
      have same : isNegative (byte :: next :: rest) = isNegative (next :: rest) := by
        simp [isNegative, List.getLast?_cons_cons]
      have value : magnitude (byte :: next :: rest) =
          byte.toNat + 256 * magnitude (next :: rest) := rfl
      have even : 256 ^ (next :: rest).length = 256 * 256 ^ rest.length := by
        rw [List.length_cons, Nat.pow_succ, Nat.mul_comm]
      have wider : 256 ^ (byte :: next :: rest).length = 256 * 256 ^ (next :: rest).length := by
        rw [List.length_cons, Nat.pow_succ, Nat.mul_comm]
      rw [same, ih, value, wider]
      omega

theorem length_padded {bytes : List UInt8} {length : Nat} (fits : bytes.length ≤ length)
    (fill : UInt8) : (padded fill length bytes).length = length := by
  rw [padded, List.length_append, List.length_replicate]
  omega

theorem magnitude_padded_zero (length : Nat) (bytes : List UInt8) :
    magnitude (padded 0 length bytes) = magnitude bytes := by
  rw [padded, magnitude_append, magnitude_replicate_zero, Nat.mul_zero, Nat.add_zero]

theorem magnitude_padded_ones {bytes : List UInt8} {length : Nat} (fits : bytes.length ≤ length) :
    magnitude (padded 255 length bytes) + 256 ^ bytes.length = magnitude bytes + 256 ^ length := by
  have ones := magnitude_replicate_ones (length - bytes.length)
  rw [padded, magnitude_append]
  calc magnitude bytes + 256 ^ bytes.length * magnitude (List.replicate (length - bytes.length) 255)
        + 256 ^ bytes.length
      = magnitude bytes + 256 ^ bytes.length *
          (magnitude (List.replicate (length - bytes.length) 255) + 1) := by ring
    _ = magnitude bytes + 256 ^ (bytes.length + (length - bytes.length)) := by
        rw [ones, ← Nat.pow_add]
    _ = magnitude bytes + 256 ^ length := by rw [Nat.add_sub_cancel' fits]

@[simp]
theorem integer_unsigned (bytes : List UInt8) : integer false bytes = magnitude bytes := rfl

theorem unsigned_padded_zero (length : Nat) (bytes : List UInt8) :
    integer false (padded 0 length bytes) = integer false bytes := by
  rw [integer_unsigned, integer_unsigned, magnitude_padded_zero]

/-- At least one zero at the high end makes a signed integer of an unsigned one. -/
theorem signed_padded_zero {bytes : List UInt8} {length : Nat} (wider : bytes.length < length) :
    integer true (padded 0 length bytes) = integer false bytes := by
  have lower : isNegative (padded 0 length bytes) = false := by
    apply Bool.eq_false_iff.mpr
    rw [Ne, isNegative_iff, length_padded (Nat.le_of_lt wider), magnitude_padded_zero, Nat.not_le]
    calc 2 * magnitude bytes < 2 * 256 ^ bytes.length := by
          have bound := magnitude_lt bytes
          omega
      _ ≤ 256 ^ (bytes.length + 1) := by
          rw [Nat.pow_succ]
          omega
      _ ≤ 256 ^ length := Nat.pow_le_pow_right (by decide) wider
  simp [integer, lower, magnitude_padded_zero]

/-- Copies of the sign leave a signed integer as it is. -/
theorem signed_padded_sign {bytes : List UInt8} {length : Nat} (fits : bytes.length ≤ length) :
    integer true (padded (signFill bytes) length bytes) = integer true bytes := by
  have grows : 256 ^ bytes.length ≤ 256 ^ length := Nat.pow_le_pow_right (by decide) fits
  cases negative : isNegative bytes with
  | false =>
    have lower : isNegative (padded 0 length bytes) = false := by
      apply Bool.eq_false_iff.mpr
      rw [Ne, isNegative_iff, length_padded fits, magnitude_padded_zero, Nat.not_le]
      have half := (isNegative_iff bytes).not.mp (by simp [negative])
      omega
    simp [integer, signFill, negative, lower, magnitude_padded_zero]
  | true =>
    have half := (isNegative_iff bytes).mp negative
    have bound := magnitude_lt bytes
    have shifted := magnitude_padded_ones fits
    have upper : isNegative (padded 255 length bytes) = true := by
      rw [isNegative_iff, length_padded fits]
      omega
    simp only [integer, signFill, negative, upper, Bool.and_self, if_true, length_padded fits]
    have shifted : ((magnitude (padded 255 length bytes) : Int) + 256 ^ bytes.length) =
        magnitude bytes + 256 ^ length := by exact_mod_cast shifted
    omega

end TraceLayout.RecordBytes
