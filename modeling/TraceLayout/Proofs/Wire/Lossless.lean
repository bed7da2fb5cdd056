import TraceLayout.Proofs.Wire.RecordBytes
import TraceLayout.Wire.Conversion

/-! A conversion is chosen exactly where no integer is lost: the extended bytes denote the integer
that was read, and where nothing is chosen some bytes denote an integer that the target cannot
hold. -/
namespace TraceLayout
open RecordBytes

def IntShape.Holds (shape : IntShape) (value : Int) : Prop :=
  if shape.signed then
    -2 ^ (shape.width.bits - 1) ≤ value ∧ value < 2 ^ (shape.width.bits - 1)
  else 0 ≤ value ∧ value < 2 ^ shape.width.bits

instance (shape : IntShape) (value : Int) : Decidable (shape.Holds value) := by
  unfold IntShape.Holds
  infer_instance

/-- The integers of a shape are those that as many bytes as its width can denote. -/
theorem IntShape.holds_integer {shape : IntShape} {bytes : List UInt8}
    (length : bytes.length = shape.width.bytes) : shape.Holds (integer shape.signed bytes) := by
  obtain ⟨width, signed⟩ := shape
  have bound := magnitude_lt bytes
  have half := isNegative_iff bytes
  rw [length] at bound half
  unfold Holds integer
  rw [length]
  cases signed with
  | false => cases width <;> simp_all [Width.bits, Width.bytes]
  | true =>
    cases negative : isNegative bytes <;>
      cases width <;> simp_all [Width.bits, Width.bytes] <;> omega

namespace Conversion

/-- The widths of the integers that an integer conversion reads and makes. -/
def widths? : Conversion → Option (Width × Width)
  | .zeroExtend source target | .signExtend source target => some (source, target)
  | .bool | .charArray | .charRun | .dataLoc => none

/-- The bytes that an integer conversion makes of those read, the lowest first. -/
def extend? : Conversion → List UInt8 → Option (List UInt8)
  | .zeroExtend _ target, bytes => some (padded 0 target.bytes bytes)
  | .signExtend _ target, bytes => some (padded (signFill bytes) target.bytes bytes)
  | .bool, _ | .charArray, _ | .charRun, _ | .dataLoc, _ => none

section Shapes
variable {source target : IntShape} {conversion : Conversion}

theorem ofShapes?_cases (chosen : ofShapes? source target = some conversion) :
    (source.signed = false ∧ target.signed = false ∧ source.width ≤ target.width ∧
      conversion = .zeroExtend source.width target.width) ∨
    (source.signed = false ∧ target.signed = true ∧ source.width < target.width ∧
      conversion = .zeroExtend source.width target.width) ∨
    (source.signed = true ∧ target.signed = true ∧ source.width ≤ target.width ∧
      conversion = .signExtend source.width target.width) := by
  unfold ofShapes? at chosen
  split at chosen
  · rename_i unsigned targetUnsigned
    split at chosen
    · rename_i fits
      exact .inl ⟨unsigned, targetUnsigned, fits, (Option.some.inj chosen).symm⟩
    · contradiction
  · rename_i unsigned targetSigned
    split at chosen
    · rename_i fits
      exact .inr (.inl ⟨unsigned, targetSigned, fits, (Option.some.inj chosen).symm⟩)
    · contradiction
  · rename_i signed targetSigned
    split at chosen
    · rename_i fits
      exact .inr (.inr ⟨signed, targetSigned, fits, (Option.some.inj chosen).symm⟩)
    · contradiction
  · contradiction

theorem widths_of_ofShapes? (chosen : ofShapes? source target = some conversion) :
    conversion.widths? = some (source.width, target.width) ∧ source.width ≤ target.width := by
  rcases ofShapes?_cases chosen with ⟨-, -, fits, rfl⟩ | ⟨-, -, fits, rfl⟩ | ⟨-, -, fits, rfl⟩
  · exact ⟨rfl, fits⟩
  · exact ⟨rfl, Nat.le_of_lt fits⟩
  · exact ⟨rfl, fits⟩

/-- The bytes that a chosen conversion makes denote the integer that was read. -/
theorem extend_of_ofShapes? (chosen : ofShapes? source target = some conversion)
    {bytes : List UInt8} (length : bytes.length = source.width.bytes) :
    ∃ extended, conversion.extend? bytes = some extended ∧
      extended.length = target.width.bytes ∧
      integer target.signed extended = integer source.signed bytes := by
  rcases ofShapes?_cases chosen with ⟨unsigned, targetUnsigned, fits, rfl⟩ |
    ⟨unsigned, targetSigned, fits, rfl⟩ | ⟨signed, targetSigned, fits, rfl⟩
  · have fits : bytes.length ≤ target.width.bytes := length ▸ fits
    refine ⟨_, rfl, length_padded fits 0, ?_⟩
    rw [unsigned, targetUnsigned, unsigned_padded_zero]
  · have wider : bytes.length < target.width.bytes := length ▸ fits
    refine ⟨_, rfl, length_padded (Nat.le_of_lt wider) 0, ?_⟩
    rw [unsigned, targetSigned, signed_padded_zero wider]
  · have fits : bytes.length ≤ target.width.bytes := length ▸ fits
    refine ⟨_, rfl, length_padded fits _, ?_⟩
    rw [signed, targetSigned, signed_padded_sign fits]

/-- Where nothing is chosen, some bytes denote an integer that the target cannot hold: the largest
one of an unsigned source, minus one if only the source is signed, and else the least one. -/
theorem exists_lost_of_ofShapes? (refused : ofShapes? source target = none) :
    ∃ bytes : List UInt8, bytes.length = source.width.bytes ∧
      ¬ target.Holds (integer source.signed bytes) := by
  obtain ⟨width, signed⟩ := source
  obtain ⟨targetWidth, targetSigned⟩ := target
  cases signed with
  | false =>
    refine ⟨List.replicate width.bytes 255, List.length_replicate, ?_⟩
    cases width <;> cases targetWidth <;> cases targetSigned <;> revert refused <;> decide
  | true =>
    cases targetSigned with
    | false =>
      refine ⟨List.replicate width.bytes 255, List.length_replicate, ?_⟩
      cases width <;> cases targetWidth <;> decide
    | true =>
      refine ⟨List.replicate (width.bytes - 1) 0 ++ [128], ?_, ?_⟩
      · cases width <;> rfl
      · cases width <;> cases targetWidth <;> revert refused <;> decide

end Shapes

section Types
variable {kernel : KernelType} {proto : ProtoType} {conversion : Conversion}

theorem integer?_eq_some_iff :
    integer? kernel proto = some conversion ↔
      ∃ source target, kernel.intShape? = some source ∧ proto.intShape? = some target ∧
        ofShapes? source target = some conversion := by
  constructor
  · intro chosen
    obtain ⟨source, reads, rest⟩ := Option.bind_eq_some_iff.mp chosen
    obtain ⟨target, holds, made⟩ := Option.bind_eq_some_iff.mp rest
    exact ⟨source, target, reads, holds, made⟩
  · rintro ⟨source, target, reads, holds, made⟩
    simp [integer?, reads, holds, made]

theorem between?_eq_integer? {source : IntShape} (reads : kernel.intShape? = some source)
    (notBool : ¬ (kernel = .bool ∧ proto = .bool)) :
    between? kernel proto = integer? kernel proto := by
  cases kernel with
  | integer shape => rfl
  | bool =>
    have other : proto ≠ .bool := fun same => notBool ⟨rfl, same⟩
    simp [between?, other]
  | pointer32 | pointer64 => rfl
  | charArray | charRun | charPointer | dataLoc => contradiction

theorem shapes_of_between? (chosen : between? kernel proto = some conversion)
    {widths : Width × Width} (isInteger : conversion.widths? = some widths) :
    ∃ source target, kernel.intShape? = some source ∧ proto.intShape? = some target ∧
      ofShapes? source target = some conversion := by
  have byShapes : integer? kernel proto = some conversion := by
    cases kernel with
    | integer shape => exact chosen
    | pointer32 | pointer64 => exact chosen
    | bool =>
      simp only [between?] at chosen
      split at chosen
      · obtain rfl := Option.some.inj chosen
        contradiction
      · exact chosen
    | charPointer => contradiction
    | charArray | charRun | dataLoc =>
      simp only [between?] at chosen
      split at chosen
      · obtain rfl := Option.some.inj chosen
        contradiction
      · contradiction
  exact integer?_eq_some_iff.mp byShapes

theorem bool_of_between? (chosen : between? kernel proto = some .bool) : kernel = .bool := by
  cases kernel with
  | bool => rfl
  | charPointer => contradiction
  | integer _ | pointer32 | pointer64 =>
    have byShapes : integer? _ proto = some .bool := chosen
    obtain ⟨source, target, -, -, made⟩ := integer?_eq_some_iff.mp byShapes
    have widths := (widths_of_ofShapes? made).1
    contradiction
  | charArray | charRun | dataLoc =>
    simp only [between?] at chosen
    split at chosen
    · cases chosen
    · contradiction

theorem ofShapes?_of_between?_none {source target : IntShape}
    (reads : kernel.intShape? = some source) (holds : proto.intShape? = some target)
    (refused : between? kernel proto = none) : ofShapes? source target = none := by
  have notBool : ¬ (kernel = .bool ∧ proto = .bool) := by
    rintro ⟨-, rfl⟩
    contradiction
  rw [between?_eq_integer? reads notBool] at refused
  simpa [integer?, reads, holds] using refused

end Types

end Conversion

end TraceLayout
