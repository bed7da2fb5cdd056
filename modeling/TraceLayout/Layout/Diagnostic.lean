import TraceLayout.Kernel.FormatError
import TraceLayout.Wire.ProtoType

/-! Why an event or a field is missing from a table. No diagnostic stops the building of the table.
-/
namespace TraceLayout

inductive Diagnostic
  | unavailable (group name : String)
  | unparsable (group name : String) (error : FormatError)
  /-- An event declared earlier has the same kernel id. -/
  | idTaken (event : String) (id : UInt32) (existing : String)
  | fieldMissing (event field : String)
  /-- Nothing converts the kernel type, which may be unknown, into the protobuf type. -/
  | fieldUnsupported (event field : String) (kernel? : Option KernelType) (proto : ProtoType)
  | fieldTooLong (event field : String) (stop : Nat)
  /-- The event's header is not the shared one. The event is kept and uses the shared header. -/
  | headerDiffers (event : String)
  deriving DecidableEq, Repr

namespace Diagnostic

/-- Whether the whole event is missing, rather than one of its fields or nothing. -/
def dropsEvent : Diagnostic → Bool
  | .unavailable .. | .unparsable .. | .idTaken .. => true
  | .fieldMissing .. | .fieldUnsupported .. | .fieldTooLong .. | .headerDiffers .. => false

def event : Diagnostic → String
  | .unavailable _ name | .unparsable _ name _ => name
  | .idTaken event _ _ | .fieldMissing event _ | .fieldUnsupported event _ _ _
  | .fieldTooLong event _ _ | .headerDiffers event => event

def message : Diagnostic → String
  | .unavailable group name => s!"{group}/{name}: no kernel format available"
  | .unparsable group name error =>
    s!"{group}/{name}: unparsable kernel format: {error.message}"
  | .idTaken event id existing => s!"{event}: kernel id {id} already used by '{existing}'"
  | .fieldMissing event field => s!"{event}.{field}: field not reported by the kernel"
  | .fieldUnsupported event field (some kernel) proto =>
    s!"{event}.{field}: cannot translate {kernel.text} into {proto.text}"
  | .fieldUnsupported event field none _ => s!"{event}.{field}: unrecognised kernel field type"
  | .fieldTooLong event field stop => s!"{event}.{field}: field ends at byte {stop}"
  | .headerDiffers event => s!"{event}: record header differs from the shared common fields"

end TraceLayout.Diagnostic
