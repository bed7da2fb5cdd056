import Mathlib.Tactic.SplitIfs
import TraceLayout.Files.FileTree
import TraceLayout.Proofs.Text.ByteOrder

/-! Where names lead in a tree when nothing limits their length. A look-up within the limits of an
operating system goes the same way, and one that goes there at all finds the same. -/
namespace TraceLayout

namespace FileTree

/-- The content of the file at the end of some names, each of which is an entry of a directory. -/
def fileAt? : List OsText → FileTree → Option ByteArray
  | [], .file content => some content
  | name :: names, .directory entries => (entries.lookup name).bind (fileAt? names)
  | [], .directory _ | _ :: _, .file _ => none

namespace Place

/-- Where one name leads from a place, however long it is. -/
def enter? (place : Place) (name : OsText) : Option Place :=
  match place.node with
  | .file _ => none
  | .directory entries =>
    if name = "" ∨ name = "." then some place
    else if name = ".." then
      match place.above with
      | [] => some place
      | parent :: above => some ⟨parent, place.names.drop 1, above⟩
    else (entries.lookup name).map fun node =>
      ⟨node, name :: place.names, place.node :: place.above⟩

def follow? (place : Place) (names : List OsText) : Option Place := names.foldlM enter? place

def content? (place : Place) : Option ByteArray := place.node.fileAt? []

variable {place other : Place} {name : OsText} {names : List OsText}

@[simp] theorem follow?_nil : place.follow? [] = some place := rfl

theorem follow?_cons : place.follow? (name :: names) = (place.enter? name).bind (·.follow? names) :=
  rfl

theorem follow?_append (more : List OsText) :
    place.follow? (names ++ more) = (place.follow? names).bind (·.follow? more) :=
  List.foldlM_append

theorem follow?_concat :
    place.follow? (names ++ [name]) = (place.follow? names).bind (·.enter? name) := by
  simp [follow?_append, follow?_cons, follow?_nil]

/-- An empty name asks for a directory, as any other name after it does. -/
theorem follow?_blank_concat :
    (place.follow? (names ++ [("" : OsText)])).bind (·.enter? name) =
      (place.follow? names).bind (·.enter? name) := by
  rw [follow?_concat, Option.bind_assoc]
  congr 1
  funext place
  cases node : place.node with
  | file _ => simp [enter?, node]
  | directory _ => simp [enter?, node]

/-- Names that are entries lead through directories alone. -/
theorem bind_follow?_eq_fileAt?
    (entries : ∀ name ∈ names, name ≠ "" ∧ name ≠ "." ∧ name ≠ "..") :
    (place.follow? names).bind content? = place.node.fileAt? names := by
  induction names generalizing place with
  | nil => rfl
  | cons name names ih =>
    obtain ⟨named, notHere, notAbove⟩ := entries name List.mem_cons_self
    have further : ∀ place : Place,
        (place.follow? names).bind content? = place.node.fileAt? names :=
      fun _ => ih fun name member => entries name (List.mem_cons_of_mem _ member)
    rw [follow?_cons, Option.bind_assoc]
    cases node : place.node with
    | file _ => simp [enter?, node, fileAt?]
    | directory below =>
      simp only [enter?, node, named, notHere, notAbove, or_self, ↓reduceIte, fileAt?,
        Option.bind_map, Function.comp_def, further]

end Place

variable {place other : Place} {names : List OsText}

/-- A look-up that ends somewhere ends where the names lead. -/
theorem follow?_of_descend (found : descend place names = .ok other) :
    place.follow? names = some other := by
  induction names generalizing place with
  | nil => exact congrArg some (Except.ok.inj found)
  | cons name names ih =>
    rw [descend] at found
    rw [Place.follow?_cons, Place.enter?]
    cases node : place.node with
    | file _ => simp [node] at found
    | directory entries =>
      simp only [node] at found ⊢
      split_ifs at found ⊢ with stays up
      · exact ih found
      · cases above : place.above with
        | nil => exact ih (by simpa [above] using found)
        | cons parent above' => exact ih (by simpa [above] using found)
      · cases entry : entries.lookup name with
        | none => simp [entry] at found
        | some node => exact ih (by simpa [entry, *] using found)

/-- Names that are short enough are looked up all the way. -/
theorem descend_of_follow? (short : ∀ name ∈ names, name.bytes.length ≤ longestName)
    (leads : place.follow? names = some other) : descend place names = .ok other := by
  induction names generalizing place with
  | nil => exact congrArg Except.ok (Option.some.inj leads)
  | cons name names ih =>
    have fits := Nat.not_lt.mpr (short name List.mem_cons_self)
    have further : ∀ place : Place, place.follow? names = some other →
        descend place names = .ok other :=
      fun _ => ih fun name member => short name (List.mem_cons_of_mem _ member)
    rw [Place.follow?_cons, Place.enter?] at leads
    rw [descend]
    cases node : place.node with
    | file _ => simp [node] at leads
    | directory entries =>
      simp only [node, fits, ↓reduceIte] at leads ⊢
      split_ifs at leads ⊢ with stays up
      · exact further _ leads
      · cases above : place.above with
        | nil => exact further _ (by simpa [above] using leads)
        | cons parent above' => exact further _ (by simpa [above] using leads)
      · cases entry : entries.lookup name with
        | none => simp [entry] at leads
        | some node => exact further _ (by simpa [entry] using leads)

section Put

@[simp] theorem fileAt?_empty (names : List OsText) : fileAt? names empty = none := by
  cases names <;> rfl

theorem fileAt?_getD_empty (node? : Option FileTree) (names : List OsText) :
    fileAt? names (node?.getD empty) = node?.bind (fileAt? names) := by
  cases node? <;> simp

theorem lookup_cons (entry : OsText × FileTree) (entries : List (OsText × FileTree))
    (probe : OsText) :
    (entry :: entries).lookup probe =
      if probe = entry.1 then some entry.2 else entries.lookup probe := by
  by_cases same : probe = entry.1
  · rw [if_pos same, same, List.lookup_cons_self]
  · rw [if_neg same, List.lookup_cons, beq_false_of_ne same]

theorem lookup_setEntry (name probe : OsText) (node : FileTree)
    (entries : List (OsText × FileTree)) :
    (setEntry name node entries).lookup probe =
      if probe = name then some node else entries.lookup probe := by
  induction entries with
  | nil => rw [setEntry, lookup_cons]
  | cons entry entries ih =>
    by_cases taken : entry.1 = name
    · rw [setEntry, if_pos taken, lookup_cons, lookup_cons, taken]
      split_ifs <;> rfl
    · rw [setEntry, if_neg taken, lookup_cons, lookup_cons, ih]
      split_ifs with own other
      · exact absurd (own.symm.trans other) taken
      · rfl
      · rfl
      · rfl

/-- A file that is put into a tree is at its place, and nothing is above or below it. All other
files stay where they are. -/
theorem fileAt?_put (content : ByteArray) (names probe : List OsText) (tree : FileTree) :
    fileAt? probe (put (.file content) names tree) =
      if probe = names then some content
      else if probe <+: names ∨ names <+: probe then none
      else fileAt? probe tree := by
  induction names generalizing probe tree with
  | nil => cases probe <;> simp [put, fileAt?]
  | cons name names ih =>
    cases probe with
    | nil => cases tree <;> simp [put, fileAt?]
    | cons first rest =>
      by_cases same : first = name
      · subst same
        cases tree <;> simp [put, fileAt?, lookup_setEntry, ih, fileAt?_getD_empty]
      · have other : ¬name = first := fun eq => same eq.symm
        cases tree <;> simp [put, fileAt?, lookup_cons, lookup_setEntry, same, other]

end Put

end FileTree

namespace Files
variable {files : Files} {path : OsText}

/-- The names that a look-up of a path goes through, the working directory's before a relative
one's. -/
def namesOf (files : Files) (path : OsText) : List OsText :=
  (if Path.isAbsolute path then [] else files.current) ++ Path.names path

/-- Where a path leads, if it leads anywhere. -/
def place? (files : Files) (path : OsText) : Option FileTree.Place :=
  FileTree.Place.follow? ⟨files.tree, [], []⟩ (files.namesOf path)

def fileAt? (files : Files) (path : OsText) : Option ByteArray :=
  (files.place? path).bind (·.content?)

theorem place?_eq_bind :
    files.place? path =
      (FileTree.Place.follow? ⟨files.tree, [], []⟩
        (if Path.isAbsolute path then [] else files.current)).bind (·.follow? (Path.names path)) :=
  FileTree.Place.follow?_append _

theorem find_eq_ok_iff {place : FileTree.Place} :
    files.find path = .ok place ↔ checkPath path = .ok () ∧
      ∃ first, files.start path = .ok first ∧
        FileTree.descend first (Path.names path) = .ok place := by
  unfold find
  cases checkPath path <;> cases files.start path <;> simp [bind, Except.bind]

theorem place?_of_find {place : FileTree.Place} (found : files.find path = .ok place) :
    files.place? path = some place := by
  obtain ⟨-, first, started, rest⟩ := find_eq_ok_iff.mp found
  rw [place?_eq_bind, FileTree.follow?_of_descend started, Option.bind_some,
    FileTree.follow?_of_descend rest]

theorem find_of_place? (checked : checkPath path = .ok ())
    (short : ∀ name ∈ files.namesOf path, name.bytes.length ≤ FileTree.longestName)
    {place : FileTree.Place} (leads : files.place? path = some place) :
    files.find path = .ok place := by
  obtain ⟨first, started, rest⟩ := Option.bind_eq_some_iff.mp (place?_eq_bind ▸ leads)
  refine find_eq_ok_iff.mpr ⟨checked, first, ?_, ?_⟩
  · exact FileTree.descend_of_follow?
      (fun name member => short name (List.mem_append_left _ member)) started
  · exact FileTree.descend_of_follow?
      (fun name member => short name (List.mem_append_right _ member)) rest

/-- What is read of a path is the text of the file that it leads to. -/
theorem fileAt?_of_readText {text : String} (read : files.readText path = .ok text) :
    files.fileAt? path = some text.toUTF8 := by
  cases found : files.find path with
  | error error => simp [readText, found] at read
  | ok place =>
    rw [fileAt?, place?_of_find found, Option.bind_some, FileTree.Place.content?]
    cases node : place.node with
    | directory entries => simp [readText, found, node] at read
    | file content =>
      cases decoded : String.fromUTF8? content with
      | none => simp [readText, found, node, decoded] at read
      | some other =>
        obtain rfl : other = text := by simpa [readText, found, node, decoded] using read
        exact congrArg some (Text.fromUTF8?_eq_some_iff.mp decoded)

/-- A file that holds a text is read, if its path is within the limits. -/
theorem readText_of_fileAt? (checked : checkPath path = .ok ())
    (short : ∀ name ∈ files.namesOf path, name.bytes.length ≤ FileTree.longestName)
    {text : String} (held : files.fileAt? path = some text.toUTF8) :
    files.readText path = .ok text := by
  obtain ⟨place, leads, content⟩ := Option.bind_eq_some_iff.mp held
  have found := find_of_place? checked short leads
  rw [FileTree.Place.content?] at content
  cases node : place.node with
  | directory entries => simp [node, FileTree.fileAt?] at content
  | file bytes =>
    obtain rfl : bytes = text.toUTF8 := by simpa [node, FileTree.fileAt?] using content
    simp only [readText, found, node, Text.fromUTF8?_eq_some_iff.mpr rfl]

end Files

end TraceLayout
