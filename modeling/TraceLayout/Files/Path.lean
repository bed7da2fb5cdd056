import TraceLayout.Text.OsText

/-! Paths: names with slashes between them. -/
namespace TraceLayout.Path

def slash : UInt8 := '/'.toUInt8

/-- A path below another one. An absolute path stays as it is. -/
def join (base path : OsText) : OsText :=
  if path.bytes.head? = some slash then path
  else if base.bytes.getLast? = none ∨ base.bytes.getLast? = some slash then base ++ path
  else base ++ "/" ++ path

def isAbsolute (path : OsText) : Bool := path.bytes.head? == some slash

/-- The names between the slashes of a path. Some may be empty, such as the first one of an absolute
path. -/
def names (path : OsText) : List OsText := (path.bytes.splitOn slash).map .mk

/-- Whether a text is the name of an entry of a directory, and so adds one name to a path it is
joined to: it is not empty, does not stand for a directory itself or the one above, and has neither
separators nor a NUL. -/
def isPlain (name : String) : Bool :=
  name != "" && name != "." && name != ".." &&
    !name.toList.any fun c => c == '/' || c == '\\' || c == '\x00'

end TraceLayout.Path
