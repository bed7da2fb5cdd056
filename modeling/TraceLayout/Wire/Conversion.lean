import TraceLayout.Wire.ProtoType

/-! How the bytes of a record field become a protobuf value. A conversion is chosen once, while the
table is built, and only where no value can be lost: integers only ever widen, and a kernel address
is never text. -/
namespace TraceLayout

/-- The steps from the bytes of a field to a protobuf value. -/
inductive Conversion
  /-- Reads an unsigned integer and extends it with zeros. -/
  | zeroExtend (source target : Width)
  /-- Reads a signed integer and extends it with its sign. -/
  | signExtend (source target : Width)
  | bool
  /-- Takes the characters of an array of fixed size up to its first NUL. -/
  | charArray
  /-- Takes characters up to a NUL. -/
  | charRun
  /-- Takes the characters that an offset and a length point at. -/
  | dataLoc
  deriving DecidableEq, Repr

namespace Conversion

/-- The conversion between two integers that keeps every value. An unsigned integer needs a spare
bit in a signed target, and a signed integer never fits an unsigned target. -/
def ofShapes? (source target : IntShape) : Option Conversion :=
  match source.signed, target.signed with
  | false, false =>
    if source.width ≤ target.width then some (.zeroExtend source.width target.width) else none
  | false, true =>
    if source.width < target.width then some (.zeroExtend source.width target.width) else none
  | true, true =>
    if source.width ≤ target.width then some (.signExtend source.width target.width) else none
  | true, false => none

/-- The conversion between two types that read and hold integers. -/
def integer? (kernel : KernelType) (proto : ProtoType) : Option Conversion :=
  kernel.intShape?.bind fun source => proto.intShape?.bind fun target => ofShapes? source target

/-- The conversion of a kernel type into a protobuf type, if there is one that loses nothing. -/
def between? (kernel : KernelType) (proto : ProtoType) : Option Conversion :=
  match kernel with
  | .charArray => if proto.isByteRun then some .charArray else none
  | .charRun => if proto.isByteRun then some .charRun else none
  | .charPointer => none
  | .dataLoc => if proto = .string then some .dataLoc else none
  | .bool => if proto = .bool then some .bool else integer? kernel proto
  | _ => integer? kernel proto

def isCopy : Conversion → Bool
  | .zeroExtend source target | .signExtend source target => source == target
  | .bool | .charArray | .charRun | .dataLoc => false

def sourceBytes? : Conversion → Option Nat
  | .zeroExtend source _ | .signExtend source _ => some source.bytes
  | .bool | .charArray | .charRun | .dataLoc => none

def text : Conversion → String
  | .zeroExtend source target =>
    if source = target then s!"u{source.text} copy"
    else s!"u{source.text} -> u{target.text} zero-extend"
  | .signExtend source target =>
    if source = target then s!"s{source.text} copy"
    else s!"s{source.text} -> s{target.text} sign-extend"
  | .bool => "bool"
  | .charArray => "fixed cstring"
  | .charRun => "cstring"
  | .dataLoc => "data_loc string"

end TraceLayout.Conversion
