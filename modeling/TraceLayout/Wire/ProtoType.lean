import TraceLayout.Kernel.KernelType

/-! Protobuf field types that a record field can land in. -/
namespace TraceLayout

/-- A protobuf field type, in the order of its descriptor numbers, which start at one. -/
inductive ProtoType
  | double | float | int64 | uint64 | int32 | fixed64 | fixed32 | bool | string | group | message
  | bytes | uint32 | enum | sfixed32 | sfixed64 | sint32 | sint64
  deriving DecidableEq, Repr

namespace ProtoType

def all : List ProtoType :=
  [.double, .float, .int64, .uint64, .int32, .fixed64, .fixed32, .bool, .string, .group, .message,
   .bytes, .uint32, .enum, .sfixed32, .sfixed64, .sint32, .sint64]

def text : ProtoType → String
  | .double => "double"
  | .float => "float"
  | .int64 => "int64"
  | .uint64 => "uint64"
  | .int32 => "int32"
  | .fixed64 => "fixed64"
  | .fixed32 => "fixed32"
  | .bool => "bool"
  | .string => "string"
  | .group => "group"
  | .message => "message"
  | .bytes => "bytes"
  | .uint32 => "uint32"
  | .enum => "enum"
  | .sfixed32 => "sfixed32"
  | .sfixed64 => "sfixed64"
  | .sint32 => "sint32"
  | .sint64 => "sint64"

def number : ProtoType → Nat
  | .double => 1
  | .float => 2
  | .int64 => 3
  | .uint64 => 4
  | .int32 => 5
  | .fixed64 => 6
  | .fixed32 => 7
  | .bool => 8
  | .string => 9
  | .group => 10
  | .message => 11
  | .bytes => 12
  | .uint32 => 13
  | .enum => 14
  | .sfixed32 => 15
  | .sfixed64 => 16
  | .sint32 => 17
  | .sint64 => 18

/-- The integers that the type holds. Booleans and enumerations hold none. -/
def intShape? : ProtoType → Option IntShape
  | .int32 | .sint32 | .sfixed32 => some ⟨.w32, true⟩
  | .int64 | .sint64 | .sfixed64 => some ⟨.w64, true⟩
  | .uint32 | .fixed32 => some ⟨.w32, false⟩
  | .uint64 | .fixed64 => some ⟨.w64, false⟩
  | .double | .float | .bool | .string | .group | .message | .bytes | .enum => none

def isByteRun (type : ProtoType) : Bool := type == .string || type == .bytes

end TraceLayout.ProtoType
