/-! Why a file cannot be read or written. -/
namespace TraceLayout

inductive FileError
  | notFound
  | notADirectory
  | isADirectory
  | nameTooLong
  | permissionDenied
  | notPermitted
  /-- The path holds a NUL, which no file name can. -/
  | nulInPath
  /-- The bytes of the file are not UTF-8 text. -/
  | notText
  /-- Any other reason, in the words of the operating system. -/
  | other (reason : String)
  deriving DecidableEq, Repr

namespace FileError

/-- Whether reading failed for a lack of rights. -/
def isDenial : FileError → Bool
  | .permissionDenied | .notPermitted => true
  | _ => false

def message : FileError → String
  | .notFound => "No such file or directory (os error 2)"
  | .notADirectory => "Not a directory (os error 20)"
  | .isADirectory => "Is a directory (os error 21)"
  | .nameTooLong => "File name too long (os error 36)"
  | .permissionDenied => "Permission denied (os error 13)"
  | .notPermitted => "Operation not permitted (os error 1)"
  | .nulInPath => "file name contained an unexpected NUL byte"
  | .notText => "stream did not contain valid UTF-8"
  | .other reason => reason

end TraceLayout.FileError
