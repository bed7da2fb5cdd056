import Mathlib.Data.List.Nodup
import TraceLayout.Proofs.Files.Components
import TraceLayout.Proofs.Text.ByteOrder

/-! Listing the events of a group. The names that are listed are those of the entries with a format
file, in the order of their bytes. Each of them has a path by which its format is read, unless there
is a backslash in it, and no format is read that is not listed. -/
namespace TraceLayout

namespace Path

/-- What a file system takes as the name of an entry. -/
structure IsFileName (name : OsText) : Prop where
  named : name ≠ ""
  notHere : name ≠ "."
  notAbove : name ≠ ".."
  noSlash : slash ∉ name.bytes
  noNul : 0 ∉ name.bytes

instance (name : OsText) : Decidable (IsFileName name) :=
  decidable_of_iff (name ≠ "" ∧ name ≠ "." ∧ name ≠ ".." ∧ slash ∉ name.bytes ∧ 0 ∉ name.bytes)
    ⟨fun ⟨named, notHere, notAbove, noSlash, noNul⟩ => ⟨named, notHere, notAbove, noSlash, noNul⟩,
      fun ⟨named, notHere, notAbove, noSlash, noNul⟩ => ⟨named, notHere, notAbove, noSlash, noNul⟩⟩

theorem isEntryName_iff {name : String} :
    IsEntryName name ↔ IsFileName name ∧ '\\' ∉ name.toList := by
  have slashes : slash ∈ Text.bytes name ↔ '/' ∈ name.toList := Text.mem_bytes_iff (by decide)
  have nuls : 0 ∈ Text.bytes name ↔ '\x00' ∈ name.toList :=
    Text.mem_bytes_iff (show '\x00'.toNat < 128 by decide)
  constructor
  · rintro ⟨named, notHere, notAbove, noSlash, noBackslash, noNul⟩
    exact ⟨⟨mt OsText.ofString_inj.mp named, mt OsText.ofString_inj.mp notHere,
      mt OsText.ofString_inj.mp notAbove, mt slashes.mp noSlash, mt nuls.mp noNul⟩, noBackslash⟩
  · rintro ⟨⟨named, notHere, notAbove, noSlash, noNul⟩, noBackslash⟩
    exact ⟨mt OsText.ofString_inj.mpr named, mt OsText.ofString_inj.mpr notHere,
      mt OsText.ofString_inj.mpr notAbove, mt slashes.mpr noSlash, noBackslash, mt nuls.mpr noNul⟩

end Path

namespace FileTree

/-- A tree that a file system can hold: the entries of a directory have names of their own. -/
inductive IsLegal : FileTree → Prop
  | file (content : ByteArray) : IsLegal (.file content)
  | directory {entries : List (OsText × FileTree)} (distinct : (entries.map (·.1)).Nodup)
      (names : ∀ entry ∈ entries, Path.IsFileName entry.1)
      (below : ∀ entry ∈ entries, IsLegal entry.2) : IsLegal (.directory entries)

namespace Place
variable {place other : Place} {name : OsText} {names : List OsText}

def IsLegal (place : Place) : Prop :=
  place.node.IsLegal ∧ ∀ tree ∈ place.above, tree.IsLegal

theorem IsLegal.of_enter? (legal : place.IsLegal) (entered : place.enter? name = some other) :
    other.IsLegal := by
  obtain ⟨node, above⟩ := legal
  rw [enter?] at entered
  cases held : place.node with
  | file _ => simp [held] at entered
  | directory entries =>
    simp only [held] at entered
    split_ifs at entered with stays up
    · exact Option.some.inj entered ▸ ⟨node, above⟩
    · cases outer : place.above with
      | nil =>
        simp only [outer] at entered
        exact Option.some.inj entered ▸ ⟨node, above⟩
      | cons parent rest =>
        simp only [outer] at entered
        rw [outer] at above
        obtain ⟨own, above⟩ := List.forall_mem_cons.mp above
        exact Option.some.inj entered ▸ ⟨own, above⟩
    · obtain ⟨found, there, rfl⟩ := Option.map_eq_some_iff.mp entered
      rw [held] at node
      cases node with
      | directory distinct names below =>
        obtain ⟨front, back, split, -⟩ := List.lookup_eq_some_iff.mp there
        have own : found.IsLegal := below (name, found) (by simp [split])
        exact ⟨own, List.forall_mem_cons.mpr ⟨.directory distinct names below, above⟩⟩

theorem IsLegal.of_follow? (legal : place.IsLegal) (leads : place.follow? names = some other) :
    other.IsLegal := by
  induction names generalizing place with
  | nil => exact Option.some.inj leads ▸ legal
  | cons name names ih =>
    obtain ⟨next, entered, rest⟩ := Option.bind_eq_some_iff.mp (follow?_cons ▸ leads)
    exact ih (legal.of_enter? entered) rest

end Place

variable {place other : Place} {name : OsText} {names : List OsText}

theorem descend_append (place : Place) (names more : List OsText) :
    descend place (names ++ more) = (descend place names).bind (descend · more) := by
  induction names generalizing place with
  | nil => rfl
  | cons name names ih =>
    rw [List.cons_append, descend, descend]
    cases place.node with
    | file _ => rfl
    | directory entries =>
      simp only
      split_ifs
      · exact ih _
      · cases place.above <;> exact ih _
      · rfl
      · cases entries.lookup name with
        | none => rfl
        | some node => exact ih _

/-- A name that is not a step within or out of a directory is looked up among its entries. -/
theorem exists_lookup_of_descend (file : Path.IsFileName name)
    (found : descend place [name] = .ok other) :
    ∃ entries, place.node = .directory entries ∧ entries.lookup name = some other.node := by
  rw [descend] at found
  cases held : place.node with
  | file _ => simp [held] at found
  | directory entries =>
    refine ⟨entries, rfl, ?_⟩
    simp only [held, file.named, file.notHere, file.notAbove, or_self, ↓reduceIte] at found
    split_ifs at found with long
    cases there : entries.lookup name with
    | none => simp [there] at found
    | some node =>
      simp only [there, descend] at found
      rw [← Except.ok.inj found]

end FileTree

namespace Files
variable {files : Files} {base path name : OsText}

theorem checkPath_eq_ok_iff :
    checkPath path = .ok () ↔
      0 ∉ path.bytes ∧ path ≠ "" ∧ path.bytes.length ≤ longestPath := by
  unfold checkPath
  split_ifs with nul empty long
  · simpa using fun clear : 0 ∉ path.bytes => absurd (by simpa using nul) clear
  · simp [empty]
  · simp [Nat.not_le_of_lt long]
  · exact iff_of_true rfl ⟨by simpa using nul, empty, Nat.not_lt.mp long⟩

theorem checkPath_of_append {rest : OsText} (written : base ≠ "")
    (checked : checkPath (base ++ rest) = .ok ()) : checkPath base = .ok () := by
  obtain ⟨noNul, -, short⟩ := checkPath_eq_ok_iff.mp checked
  rw [OsText.bytes_append, List.length_append] at short
  exact checkPath_eq_ok_iff.mpr ⟨fun nul => noNul (by simp [nul]), written, by omega⟩

/-- A path that goes one name further is found only through the place of the shorter one. -/
theorem exists_find_of_join (written : base ≠ "") (noSlash : Path.slash ∉ name.bytes)
    {other : FileTree.Place} (found : files.find (Path.join base name) = .ok other) :
    ∃ place, files.find base = .ok place ∧ FileTree.descend place [name] = .ok other := by
  obtain ⟨checked, first, started, rest⟩ := find_eq_ok_iff.mp found
  obtain ⟨more, continued⟩ := Path.exists_join_eq_append base noSlash
  obtain ⟨front, joined, same⟩ := Path.names_join base noSlash
  rw [continued] at checked
  rw [start, Path.isAbsolute_join base noSlash, ← start] at started
  rw [joined, FileTree.descend_append] at rest
  cases reached : FileTree.descend first front with
  | error error => simp [reached, Except.bind] at rest
  | ok place =>
    rw [reached] at rest
    have last : FileTree.descend place [name] = .ok other := rest
    refine ⟨place, find_eq_ok_iff.mpr
      ⟨checkPath_of_append written checked, first, started, ?_⟩, last⟩
    rcases same with same | same
    · rw [same, reached]
    · -- A slash at the end of the shorter path asks for a directory, and the longer one needs one.
      rw [same, FileTree.descend_append, reached]
      rw [FileTree.descend] at last
      cases held : place.node with
      | file _ => simp [held] at last
      | directory entries => simp [Except.bind, FileTree.descend, held]

theorem isLegal_of_find (legal : files.tree.IsLegal) {place : FileTree.Place}
    (found : files.find path = .ok place) : place.node.IsLegal := by
  have root : FileTree.Place.IsLegal ⟨files.tree, [], []⟩ := ⟨legal, by simp⟩
  exact (root.of_follow? (place?_of_find found)).1

theorem mem_entryNames?_iff :
    name ∈ (files.entryNames? path).getD [] ↔
      ∃ place entries, files.find path = .ok place ∧ place.node = .directory entries ∧
        name ∈ entries.map (·.1) := by
  unfold entryNames?
  split
  · rename_i entries _ _ found
    simp [found]
  · rename_i other
    simp only [Option.getD_none, List.not_mem_nil, false_iff]
    rintro ⟨⟨node, names, above⟩, entries, found, rfl, -⟩
    exact other entries names above found

theorem isFile_iff :
    files.isFile path = true ↔
      ∃ place content, files.find path = .ok place ∧ place.node = .file content := by
  unfold isFile
  split
  · rename_i content _ _ found
    simp [found]
  · rename_i other
    simp only [Bool.false_eq_true, false_iff]
    rintro ⟨⟨node, names, above⟩, content, found, rfl⟩
    exact other content names above found

theorem isFile_of_readText {text : String} (read : files.readText path = .ok text) :
    files.isFile path = true := by
  cases found : files.find path with
  | error error => simp [readText, found] at read
  | ok place =>
    cases node : place.node with
    | directory entries => simp [readText, found, node] at read
    | file content => exact isFile_iff.mpr ⟨place, content, found, node⟩

/-- A directory has an entry of every name below which a file is found. -/
theorem mem_entryNames?_of_isFile (written : path ≠ "") (file : Path.IsFileName name)
    {below : OsText} (noSlash : Path.slash ∉ below.bytes)
    (found : files.isFile (Path.join (Path.join path name) below) = true) :
    name ∈ (files.entryNames? path).getD [] := by
  obtain ⟨last, content, found, -⟩ := isFile_iff.mp found
  obtain ⟨more, continued⟩ := Path.exists_join_eq_append path file.noSlash
  have written' : Path.join path name ≠ "" := by
    intro empty
    rw [continued] at empty
    exact written (OsText.ext (List.append_eq_nil_iff.mp (congrArg OsText.bytes empty)).1)
  obtain ⟨middle, found, -⟩ := exists_find_of_join written' noSlash found
  obtain ⟨place, found, entered⟩ := exists_find_of_join written file.noSlash found
  obtain ⟨entries, node, there⟩ := FileTree.exists_lookup_of_descend file entered
  obtain ⟨front, back, split, -⟩ := List.lookup_eq_some_iff.mp there
  exact mem_entryNames?_iff.mpr ⟨place, entries, found, node, by simp [split]⟩

section Legal
variable (legal : files.tree.IsLegal)
include legal

theorem isFileName_of_mem (member : name ∈ (files.entryNames? path).getD []) :
    Path.IsFileName name := by
  obtain ⟨place, entries, found, node, there⟩ := mem_entryNames?_iff.mp member
  have own := isLegal_of_find legal found
  rw [node] at own
  cases own with
  | directory distinct names below =>
    obtain ⟨entry, listed, rfl⟩ := List.mem_map.mp there
    exact names entry listed

theorem nodup_entryNames? (path : OsText) : ((files.entryNames? path).getD []).Nodup := by
  unfold entryNames?
  split
  · rename_i entries _ _ found
    have own := isLegal_of_find legal found
    cases own with
    | directory distinct names below => exact distinct
  · exact List.nodup_nil

end Legal

end Files

namespace Tracefs
variable {tracefs : Tracefs} {files : Files} {group name : String}

/-- Where the format of an entry of a group's directory is, whether or not it can be asked for. -/
def formatFile (tracefs : Tracefs) (group : String) (name : OsText) : OsText :=
  Path.join (Path.join (tracefs.groupPath group) name) "format"

theorem groupPath_ne_empty (entry : Path.IsEntryName group) : tracefs.groupPath group ≠ "" := by
  intro empty
  have components := Path.components_join (eventsPath tracefs.root) entry
  rw [← groupPath, empty] at components
  have blank : Path.components "" = [] := by decide +kernel
  simp [blank] at components

theorem mem_eventNames_iff (tracefs : Tracefs) (legal : files.tree.IsLegal)
    (entry : Path.IsEntryName group) {name : String} :
    name ∈ tracefs.eventNames files group ↔
      Path.IsFileName name ∧ files.isFile (tracefs.formatFile group name) = true := by
  rw [eventNames, if_pos (Path.isPlain_iff.mpr entry), List.mem_mergeSort]
  simp only [List.mem_filterMap, OsText.text?_eq_some_iff, exists_eq_right, List.mem_filter]
  constructor
  · rintro ⟨member, format⟩
    exact ⟨Files.isFileName_of_mem legal member, format⟩
  · rintro ⟨file, format⟩
    exact ⟨Files.mem_entryNames?_of_isFile (groupPath_ne_empty entry) file (by decide) format,
      format⟩

theorem pairwise_mergeSort_of_nodup {names : List String} (distinct : names.Nodup) :
    names.mergeSort.Pairwise (· < ·) := by
  have sorted : names.mergeSort.Pairwise fun name other => decide (name ≤ other) = true :=
    List.pairwise_mergeSort (by simpa using fun _ _ _ => String.le_trans)
      (by simpa using String.le_total) names
  have distinct := (List.mergeSort_perm names (· ≤ ·)).nodup_iff.mpr distinct
  refine (sorted.and distinct).imp ?_
  rintro name other ⟨before, different⟩
  exact Std.lt_of_le_of_ne (of_decide_eq_true before) different

/-- Names are listed once, and in the order of their bytes. -/
theorem pairwise_eventNames (legal : files.tree.IsLegal) (tracefs : Tracefs) (group : String) :
    (tracefs.eventNames files group).Pairwise fun name other =>
      Text.bytes name < Text.bytes other := by
  unfold eventNames
  split
  · have distinct := (Files.nodup_entryNames? legal (tracefs.groupPath group)).filter fun name =>
      files.isFile (tracefs.formatFile group name)
    have texts := List.Nodup.filterMap (f := OsText.text?) (fun entry other text own own' => by
      rw [OsText.text?_eq_some_iff.mp own, OsText.text?_eq_some_iff.mp own']) distinct
    exact (pairwise_mergeSort_of_nodup texts).imp Text.lt_iff_bytes_lt.mp
  · exact .nil

theorem formatPath?_eq_some_iff_formatFile (entry : Path.IsEntryName group) {path : OsText} :
    tracefs.formatPath? group name = some path ↔
      Path.IsEntryName name ∧ tracefs.formatFile group name = path := by
  rw [formatPath?_eq_some_iff, formatFile]
  simp [entry]

/-- What the list of a group's events has to do with the formats that can be read: it has each name
once, in the order of bytes, those of all formats with a path, and those of entries with a backslash
besides. -/
structure Lists (tracefs : Tracefs) (files : Files) (group : String) (listed : List String) :
    Prop where
  increasing : listed.Pairwise fun name other => Text.bytes name < Text.bytes other
  mem_iff : ∀ name, name ∈ listed ↔
    Path.IsFileName name ∧ files.isFile (tracefs.formatFile group name) = true
  asked_iff : ∀ name, (∃ path, tracefs.formatPath? group name = some path ∧
    files.isFile path = true) ↔ name ∈ listed ∧ '\\' ∉ name.toList
  read : ∀ name text, (tracefs.source files.readText group name).text? = some text →
    name ∈ listed

/-- What a source gives of an event is what is read at its path. -/
theorem text?_source_eq_some_iff {read : OsText → Except FileError String} {text : String} :
    (tracefs.source read group name).text? = some text ↔
      ∃ path, tracefs.formatPath? group name = some path ∧ read path = .ok text := by
  cases asked : tracefs.formatPath? group name with
  | none => simp [source, asked]
  | some path => cases outcome : read path <;> simp [source, asked, outcome]

theorem eventNames_lists (tracefs : Tracefs) (files : Files) (legal : files.tree.IsLegal)
    (group : String) (plain : Path.isPlain group = true) :
    tracefs.Lists files group (tracefs.eventNames files group) := by
  have entry := Path.isPlain_iff.mp plain
  have mem_iff (name : String) : name ∈ tracefs.eventNames files group ↔
      Path.IsFileName name ∧ files.isFile (tracefs.formatFile group name) = true :=
    mem_eventNames_iff tracefs legal entry
  have asked_iff (name : String) : (∃ path, tracefs.formatPath? group name = some path ∧
      files.isFile path = true) ↔
        name ∈ tracefs.eventNames files group ∧ '\\' ∉ name.toList := by
    rw [mem_iff]
    simp only [formatPath?_eq_some_iff_formatFile entry, Path.isEntryName_iff]
    constructor
    · rintro ⟨path, ⟨⟨file, noBackslash⟩, rfl⟩, format⟩
      exact ⟨⟨file, format⟩, noBackslash⟩
    · rintro ⟨⟨file, format⟩, noBackslash⟩
      exact ⟨_, ⟨⟨file, noBackslash⟩, rfl⟩, format⟩
  refine ⟨pairwise_eventNames legal tracefs group, mem_iff, asked_iff, ?_⟩
  intro name text given
  obtain ⟨path, asked, read⟩ := text?_source_eq_some_iff.mp given
  exact ((asked_iff name).mp ⟨path, asked, Files.isFile_of_readText read⟩).1

/-- A group of two events and a switch. The name of one event has a backslash. -/
def switchedGroup : FileTree := .directory [("events", .directory [("sched", .directory [
  ("sched_switch", .directory [("format", .file "ID: 1\n".toUTF8)]),
  ("enable", .file "1".toUTF8),
  ("a\\b", .directory [("format", .file "ID: 2\n".toUTF8)])])])]

theorem isLegal_switchedGroup : switchedGroup.IsLegal := by
  have event (text : String) : FileTree.IsLegal (.directory [("format", .file text.toUTF8)]) :=
    .directory (by simp) (by simpa using by decide) (by simpa using .file _)
  refine .directory (by simp) (by simpa using by decide) (List.forall_mem_singleton.mpr ?_)
  refine .directory (by simp) (by simpa using by decide) (List.forall_mem_singleton.mpr ?_)
  exact .directory (by decide) (by decide) (by simpa using ⟨event _, .file _, event _⟩)

theorem eventNames_lists_sample :
    switchedGroup.IsLegal ∧ Path.isPlain "sched" = true ∧
      Tracefs.Lists ⟨"/."⟩ ⟨switchedGroup, []⟩ "sched"
        (eventNames ⟨"/."⟩ ⟨switchedGroup, []⟩ "sched") ∧
      "sched_switch" ∈ eventNames ⟨"/."⟩ ⟨switchedGroup, []⟩ "sched" ∧
      "enable" ∉ eventNames ⟨"/."⟩ ⟨switchedGroup, []⟩ "sched" := by
  have plain : Path.isPlain "sched" = true := by decide
  have lists := eventNames_lists ⟨"/."⟩ ⟨switchedGroup, []⟩ isLegal_switchedGroup "sched" plain
  refine ⟨isLegal_switchedGroup, plain, lists, ?_, ?_⟩
  · exact (lists.mem_iff _).mpr ⟨by decide, by decide +kernel⟩
  · intro listed
    have format := ((lists.mem_iff _).mp listed).2
    exact absurd format (by decide +kernel)

/-- An event with a backslash in its name is listed, and has no path. -/
theorem unaskable_event_listed :
    switchedGroup.IsLegal ∧ Path.isPlain "sched" = true ∧
      "a\\b" ∈ eventNames ⟨"/"⟩ ⟨switchedGroup, []⟩ "sched" ∧
      formatPath? ⟨"/"⟩ "sched" "a\\b" = none := by
  have plain : Path.isPlain "sched" = true := by decide
  refine ⟨isLegal_switchedGroup, plain, ?_, by decide⟩
  exact (mem_eventNames_iff ⟨"/"⟩ isLegal_switchedGroup (Path.isPlain_iff.mp plain)).mpr
    ⟨by decide, by decide +kernel⟩

end Tracefs

end TraceLayout
