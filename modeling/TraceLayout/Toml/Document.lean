import TraceLayout.Toml.Value

/-! Documents under construction. A key is given a value once, a table is defined by one header at
most, and dotted keys add only to tables that dotted keys made. -/
namespace TraceLayout.Toml

/-- Changes the entries of the table that a path leads to, and makes the tables on the way. The
change is told whether dotted keys made the table. Through an array of tables, a path leads to its
last table. -/
def within (byKey : Bool) (change : (dotted : Bool) → Entries → Option Entries) :
    (path : List String) → (dotted : Bool) → Entries → Option Entries
  | [], dotted, entries => change dotted entries
  | key :: path, _, entries =>
    match entries.lookup key with
    | none => do
      let origin : Origin := if byKey then .dotted else .implied
      let made ← within byKey change path byKey []
      return setItem key (.table origin made) entries
    | some (.table origin inner) =>
      if byKey && origin == .header then none
      else do
        let changed ← within byKey change path (origin == .dotted) inner
        return setItem key (.table origin changed) entries
    | some (.tables (row :: rows)) => do
      let changed ← within byKey change path false row
      return setItem key (.tables (changed :: rows)) entries
    | some (.tables []) => none
    | some (.value _) => none

def addItem (key : String) (item : Item) (entries : Entries) : Option Entries :=
  if (entries.lookup key).isSome then none else some (entries ++ [(key, item)])

def assign (path : List String) (key : String) (value : Value) (entries : Entries) :
    Option Entries :=
  let add := fun (dotted : Bool) (entries : Entries) =>
    if dotted == path.isEmpty then none else addItem key (.value value) entries
  within true add path false entries

/-- A document whose lines have been read up to some point. -/
structure Document where
  /-- All tables but the open one. -/
  root : Entries := []
  /-- The header of the open table. It is empty before the first header. -/
  path : List String := []
  /-- Whether the open table is one of an array of tables. -/
  isRow : Bool := false
  /-- The entries of the open table. -/
  entries : Entries := []

namespace Document

/-- Gives a key of the open table a value. -/
def assign (document : Document) (path : List String) (key : String) (value : Value) :
    Option Document := do
  return { document with entries := ← Toml.assign path key value document.entries }

def close (document : Document) : Option Entries :=
  match document.path.getLast? with
  | none => some document.entries
  | some key =>
    within false
      (fun _ entries =>
        if document.isRow then
          match entries.lookup key with
          | none => some (entries ++ [(key, .tables [document.entries])])
          | some (.tables rows) => some (setItem key (.tables (document.entries :: rows)) entries)
          | some _ => none
        else addItem key (.table .header document.entries) entries)
      document.path.dropLast false document.root

/-- The entries at a path that a header has made room for, and the document without them. -/
def takeImplied (path : List String) (key : String) (root : Entries) :
    Option (Entries × Entries) := do
  let room := fun (_ : Bool) (entries : Entries) =>
    match entries.lookup key with
    | none => some entries
    | some (.table .implied _) => some entries
    | some _ => none
  let root ← within false room path false root
  let found := fun (_ : Bool) (entries : Entries) =>
    match entries.lookup key with
    | some (.table .implied inner) => some inner
    | _ => some []
  let drop := fun (_ : Bool) (entries : Entries) => some (entries.filter (·.1 != key))
  return (← entriesAt found path root, ← within false drop path false root)
where
  /-- What is found in the table that a path leads to. -/
  entriesAt (found : Bool → Entries → Option Entries) : List String → Entries → Option Entries
    | [], entries => found false entries
    | key :: path, entries =>
      match entries.lookup key with
      | some (.table _ inner) => entriesAt found path inner
      | some (.tables (row :: _)) => entriesAt found path row
      | _ => none

/-- Opens the table of a header in brackets. Only longer headers may have named it before. -/
def openTable (document : Document) (path : List String) (key : String) : Option Document := do
  let root ← document.close
  let (entries, root) ← takeImplied path key root
  return ⟨root, path ++ [key], false, entries⟩

/-- Opens a new table of the array of a header in double brackets. -/
def openRow (document : Document) (path : List String) (key : String) : Option Document := do
  let root ← document.close
  let room := fun (_ : Bool) (entries : Entries) =>
    match entries.lookup key with
    | none | some (.tables _) => some entries
    | some _ => none
  return ⟨← within false room path false root, path ++ [key], true, []⟩

end TraceLayout.Toml.Document
