/-! What makes a format text unusable. -/
namespace TraceLayout

inductive FieldFault
  | noDeclaration
  | badOffset (value : String)
  | badSize (value : String)
  | noOffset (declaration : String)
  | noSize (declaration : String)
  /-- A header field ends past the last byte that a record can have. -/
  | headerTooLong (declaration : String) (stop : Nat)
  deriving DecidableEq, Repr

inductive FormatError
  | missingId
  | badId (value : String)
  | reservedId
  | missingSection
  /-- A fault in a line, which is counted from one. -/
  | badField (line : Nat) (fault : FieldFault)
  | noFields
  deriving DecidableEq, Repr

def FieldFault.message : FieldFault → String
  | .noDeclaration => "field has no declaration"
  | .badOffset value => s!"invalid offset '{value}'"
  | .badSize value => s!"invalid size '{value}'"
  | .noOffset declaration => s!"field '{declaration}' has no offset"
  | .noSize declaration => s!"field '{declaration}' has no size"
  | .headerTooLong declaration stop => s!"common field '{declaration}' ends at byte {stop}"

def FormatError.message : FormatError → String
  | .missingId => "missing 'ID:' line"
  | .badId value => s!"invalid event id '{value}'"
  | .reservedId => "event id 0 is reserved"
  | .missingSection => "missing 'format:' section"
  | .badField line fault => s!"line {line}: {fault.message}"
  | .noFields => "format section lists no fields"

end TraceLayout
