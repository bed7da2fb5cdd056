import TraceLayout.Kernel.CDecl
import TraceLayout.Kernel.Width

/-! The layout of a record field as the kernel stores it, and its inference from a C declaration, a
size and a sign. A declaration whose layout is unknown has no kernel type. -/
namespace TraceLayout

structure IntShape where
  width : Width
  signed : Bool
  deriving DecidableEq, Repr

/-- How the kernel lays out one field of a record. -/
inductive KernelType
  | integer (shape : IntShape)
  | bool
  /-- A character array of fixed size, which a NUL may end early. -/
  | charArray
  /-- Characters up to a NUL, bound only by the record. -/
  | charRun
  /-- The kernel address of a string. -/
  | charPointer
  /-- Offset and length of bytes elsewhere in the record. -/
  | dataLoc
  /-- Any other kernel address, of four bytes. -/
  | pointer32
  /-- Any other kernel address, of eight bytes. -/
  | pointer64
  deriving DecidableEq, Repr

namespace KernelType

def all : List KernelType :=
  Width.all.map (fun width => .integer ⟨width, false⟩) ++
    Width.all.map (fun width => .integer ⟨width, true⟩) ++
    [.bool, .charArray, .charRun, .charPointer, .dataLoc, .pointer32, .pointer64]

/-- The layout of an array of characters: of fixed size if an extent is written and the size is not
zero. -/
def ofExtent? (extent : List Char) (size : UInt16) : Option KernelType :=
  if extent = [] then some .charRun
  else if 0 < size then some .charArray
  else none

def ofPointee? (pointee : List Char) (size : UInt16) : Option KernelType :=
  if CDecl.isCharType pointee then some .charPointer
  else if size = 4 then some .pointer32
  else if size = 8 then some .pointer64
  else none

/-- The layout of a plain value. A boolean takes one byte, and any other type is an integer of its
size. -/
def ofScalar? (type : List Char) (size : UInt16) (signed : Bool) : Option KernelType :=
  if type = "bool".toList ∨ type = "_Bool".toList then
    if size = 1 then some .bool else none
  else (Width.ofBytes? size.toNat).map fun width => .integer ⟨width, signed⟩

/-- The layout of a declared field: a dynamic array, a pointer, an array of characters or a plain
value, tried in this order. -/
def ofDecl? (decl : CDecl) (size : UInt16) (signed : Bool) : Option KernelType :=
  match decl.dynamicElement? with
  | some element => if CDecl.isCharType element then some .dataLoc else none
  | none =>
    if decl.isPointer then ofPointee? decl.pointee size
    else match decl.extent? with
      | some extent => if CDecl.isCharType decl.type then ofExtent? extent size else none
      | none => ofScalar? decl.type size signed

/-- The layout of a field by the text of its declaration, its size in bytes and its sign. -/
def infer (declaration : String) (size : UInt16) (signed : Bool) : Option KernelType :=
  (CDecl.ofText? declaration.toList).bind fun decl => ofDecl? decl size signed

/-- The integer that a field of this type reads as. Addresses and booleans read as unsigned
integers. -/
def intShape? : KernelType → Option IntShape
  | .integer shape => some shape
  | .bool => some ⟨.w8, false⟩
  | .pointer32 => some ⟨.w32, false⟩
  | .pointer64 => some ⟨.w64, false⟩
  | .charArray | .charRun | .charPointer | .dataLoc => none

def text : KernelType → String
  | .integer ⟨width, false⟩ => s!"uint{width.text}"
  | .integer ⟨width, true⟩ => s!"int{width.text}"
  | .bool => "bool"
  | .charArray => "fixed_cstring"
  | .charRun => "cstring"
  | .charPointer => "string_ptr"
  | .dataLoc => "data_loc"
  | .pointer32 => "pointer32"
  | .pointer64 => "pointer64"

def key : KernelType → String
  | .charArray => "fixed_c_string"
  | .charRun => "c_string"
  | type => type.text

end TraceLayout.KernelType
