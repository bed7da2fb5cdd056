import TraceLayout.Files.FileError
import TraceLayout.Files.Path

/-! Directory trees, with the rules by which an operating system finds a file in them. Names are
looked up from left to right, and each has to be looked up in a directory. -/
namespace TraceLayout

inductive FileTree
  | file (content : ByteArray)
  | directory (entries : List (OsText × FileTree))

namespace FileTree

def empty : FileTree := .directory []

def setEntry (name : OsText) (node : FileTree) :
    List (OsText × FileTree) → List (OsText × FileTree)
  | [] => [(name, node)]
  | entry :: entries =>
    if entry.1 = name then (name, node) :: entries else entry :: setEntry name node entries

/-- Puts a tree at the place that names lead to, and makes the directories on the way. -/
def put (node : FileTree) : List OsText → FileTree → FileTree
  | [], _ => node
  | name :: names, .directory entries =>
    .directory (setEntry name (put node names ((entries.lookup name).getD empty)) entries)
  | name :: names, .file _ => .directory [(name, put node names empty)]

/-- A place in a tree: what is there, the names that lead to it, the last one first, and the
directories they were looked up in. -/
structure Place where
  node : FileTree
  names : List OsText := []
  above : List FileTree := []

def longestName : Nat := 255

/-- The place that names lead to from another one. An empty name or a dot stays in a directory, and
two dots go up, though not above the root. -/
def descend (place : Place) : List OsText → Except FileError Place
  | [] => .ok place
  | name :: names =>
    match place.node with
    | .file _ => .error .notADirectory
    | .directory entries =>
      if name = "" ∨ name = "." then descend place names
      else if name = ".." then
        match place.above with
        | [] => descend place names
        | parent :: above => descend ⟨parent, place.names.drop 1, above⟩ names
      else if longestName < name.bytes.length then .error .nameTooLong
      else match entries.lookup name with
        | none => .error .notFound
        | some node => descend ⟨node, name :: place.names, place.node :: place.above⟩ names

end FileTree

/-- The files that a program sees: a tree, and the names that lead to its working directory. -/
structure Files where
  tree : FileTree
  current : List OsText := []

namespace Files

/-- The longest path that can be looked up, in bytes. -/
def longestPath : Nat := 4095

def start (files : Files) (path : OsText) : Except FileError FileTree.Place :=
  FileTree.descend ⟨files.tree, [], []⟩ (if Path.isAbsolute path then [] else files.current)

/-- Refuses what cannot be a path at all. -/
def checkPath (path : OsText) : Except FileError Unit :=
  if path.bytes.contains 0 then .error .nulInPath
  else if path = "" then .error .notFound
  else if longestPath < path.bytes.length then .error .nameTooLong
  else .ok ()

def find (files : Files) (path : OsText) : Except FileError FileTree.Place := do
  checkPath path
  FileTree.descend (← files.start path) (Path.names path)

def readText (files : Files) (path : OsText) : Except FileError String :=
  match files.find path with
  | .error error => .error error
  | .ok place =>
    match place.node with
    | .directory _ => .error .isADirectory
    | .file content =>
      match String.fromUTF8? content with
      | some text => .ok text
      | none => .error .notText

def isFile (files : Files) (path : OsText) : Bool :=
  match files.find path with
  | .ok ⟨.file _, _, _⟩ => true
  | _ => false

def isDirectory (files : Files) (path : OsText) : Bool :=
  match files.find path with
  | .ok ⟨.directory _, _, _⟩ => true
  | _ => false

def entryNames? (files : Files) (path : OsText) : Option (List OsText) :=
  match files.find path with
  | .ok ⟨.directory entries, _, _⟩ => some (entries.map (·.1))
  | _ => none

/-- Writes a text to a file, which is made if its directory exists. Slashes at the end of a path ask
for a directory, and nothing is written to one. -/
def writeText (files : Files) (path : OsText) (text : String) : Except FileError Files := do
  checkPath path
  let names := (Path.names path).filter (· != ("" : OsText))
  match names.getLast? with
  | none => .error .isADirectory
  | some name =>
    let parent ← FileTree.descend (← files.start path) names.dropLast
    match parent.node with
    | .file _ => .error .notADirectory
    | .directory entries =>
      if name = "." ∨ name = ".." ∨ path.bytes.getLast? = some Path.slash then .error .isADirectory
      else if FileTree.longestName < name.bytes.length then .error .nameTooLong
      else match entries.lookup name with
        | some (.directory _) => .error .isADirectory
        | _ =>
          let place := (name :: parent.names).reverse
          .ok { files with tree := FileTree.put (.file text.toUTF8) place files.tree }

end TraceLayout.Files
