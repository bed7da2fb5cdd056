import TraceLayout.Kernel.FormatError
import TraceLayout.Kernel.KernelType
import TraceLayout.Text.Numeral

/-! One field of a record as the kernel reports it, and the line of a format text that describes it:
a declaration and any number of attributes, each ended by a semicolon. -/
namespace TraceLayout

structure KernelField where
  /-- The C declaration, such as `char prev_comm[16]`. -/
  declaration : String
  offset : UInt16
  size : UInt16
  signed : Bool
  /-- The layout, if it is one that can be read. -/
  type? : Option KernelType
  deriving DecidableEq, Repr

namespace KernelField
open Text

/-- The field of a declaration, with the type that it implies. -/
def ofDeclaration (declaration : String) (offset size : UInt16) (signed : Bool) : KernelField :=
  ⟨declaration, offset, size, signed, KernelType.infer declaration size signed⟩

def name (field : KernelField) : String :=
  String.ofList (CDecl.nameOf field.declaration.toList)

def stop (field : KernelField) : Nat := field.offset.toNat + field.size.toNat

/-- The attributes of a field line that have been read so far. -/
structure Attributes where
  offset? : Option UInt16 := none
  size? : Option UInt16 := none
  signed : Bool := false
  deriving DecidableEq, Repr

/-- Reads one attribute. The last of several with one key counts, and unknown keys say nothing. -/
def Attributes.read (seen : Attributes) (part : List Char) : Except FieldFault Attributes :=
  let part := trim part
  match after? "offset:".toList part, after? "size:".toList part, after? "signed:".toList part with
  | some value, _, _ =>
    match word? (trim value) with
    | some offset => .ok { seen with offset? := some offset }
    | none => .error (.badOffset (String.ofList (trim value)))
  | none, some value, _ =>
    match word? (trim value) with
    | some size => .ok { seen with size? := some size }
    | none => .error (.badSize (String.ofList (trim value)))
  | none, none, some value => .ok { seen with signed := trim value == ['1'] }
  | none, none, none => .ok seen

def Attributes.readAll (seen : Attributes) : List (List Char) → Except FieldFault Attributes
  | [] => .ok seen
  | part :: parts =>
    match seen.read part with
    | .ok seen => readAll seen parts
    | .error fault => .error fault

/-- The field that attributes complete. Offset and size are required, the sign is not. -/
def Attributes.complete (seen : Attributes) (declaration : String) :
    Except FieldFault KernelField :=
  match seen.offset?, seen.size? with
  | none, _ => .error (.noOffset declaration)
  | some _, none => .error (.noSize declaration)
  | some offset, some size => .ok (ofDeclaration declaration offset size seen.signed)

/-- What a line says of a field: the text after `field:` or `field special:`. Other lines say
nothing. -/
def description? (line : List Char) : Option (List Char) :=
  match after? "field:".toList line with
  | some description => some description
  | none => after? "field special:".toList line

def ofDescription (description : List Char) : Except FieldFault KernelField :=
  match description.splitOn ';' with
  | [] => .error .noDeclaration
  | first :: parts =>
    let declaration := trim first
    if declaration = [] then .error .noDeclaration
    else match Attributes.readAll {} parts with
      | .ok seen => seen.complete (String.ofList declaration)
      | .error fault => .error fault

end TraceLayout.KernelField
