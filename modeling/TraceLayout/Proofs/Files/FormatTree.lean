import TraceLayout.Files.Tracefs
import TraceLayout.Proofs.Files.Lookup
import TraceLayout.Proofs.Text.OsText

/-! Format files below the root of a tracefs. The path of a format leads to the file at `events`,
group, name and `format` below the root, so that a tracefs which holds the texts of a store answers
as the store does. -/
namespace TraceLayout

namespace Path

/-- A text that can be the name of an entry of a directory. A backslash is left out as well. -/
structure IsEntryName (name : String) : Prop where
  named : name ≠ ""
  notHere : name ≠ "."
  notAbove : name ≠ ".."
  noSlash : '/' ∉ name.toList
  noBackslash : '\\' ∉ name.toList
  noNul : '\x00' ∉ name.toList

theorem isPlain_iff {name : String} : isPlain name = true ↔ IsEntryName name := by
  have none_ : (name.toList.any fun c => c == '/' || c == '\\' || c == '\x00') = false ↔
      '/' ∉ name.toList ∧ '\\' ∉ name.toList ∧ '\x00' ∉ name.toList := by
    rw [List.any_eq_false]
    constructor
    · intro clear
      exact ⟨fun slash => clear _ slash rfl, fun back => clear _ back rfl,
        fun nul => clear _ nul rfl⟩
    · rintro ⟨slash, back, nul⟩ c member is
      rw [Bool.or_eq_true, Bool.or_eq_true, beq_iff_eq, beq_iff_eq, beq_iff_eq] at is
      rcases is with (rfl | rfl) | rfl
      · exact slash member
      · exact back member
      · exact nul member
  simp only [isPlain, Bool.and_eq_true, bne_iff_ne, Bool.not_eq_true', none_]
  constructor
  · rintro ⟨⟨⟨named, notHere⟩, notAbove⟩, slash, back, nul⟩
    exact ⟨named, notHere, notAbove, slash, back, nul⟩
  · rintro ⟨named, notHere, notAbove, slash, back, nul⟩
    exact ⟨⟨⟨named, notHere⟩, notAbove⟩, slash, back, nul⟩

theorem IsEntryName.slash_notMem {name : String} (entry : IsEntryName name) :
    slash ∉ (OsText.ofString name).bytes :=
  mt (Text.mem_bytes_iff (by decide)).mp entry.noSlash

theorem bytes_slash : Text.bytes "/" = [slash] := by decide

variable {base name : OsText}

theorem names_append_slash (base path : OsText) :
    names (base ++ "/" ++ path) = names base ++ names path := by
  have cut : (base ++ "/" ++ path).bytes = base.bytes ++ slash :: path.bytes := by
    simp [bytes_slash]
  rw [names, cut, List.splitOn_append_cons_self, List.map_append, names, names]

theorem names_of_noSlash (noSlash : slash ∉ name.bytes) : names name = [name] := by
  rw [names, List.splitOn_eq_singleton noSlash, List.map_singleton]

/-- What is joined to a path stands after exactly one slash, or alone. -/
theorem join_cases (base : OsText) (noSlash : slash ∉ name.bytes) :
    (base = "" ∧ join base name = name) ∨
    (∃ front : OsText, base = front ++ "/" ∧ join base name = front ++ "/" ++ name) ∨
    (base ≠ "" ∧ join base name = base ++ "/" ++ name) := by
  have relative : name.bytes.head? ≠ some slash := fun starts =>
    noSlash (List.mem_of_head? starts)
  by_cases blank : base.bytes = []
  · have same : base = "" := OsText.ext blank
    left
    refine ⟨same, OsText.ext ?_⟩
    simp [join, relative, same]
  · by_cases ends : base.bytes.getLast? = some slash
    · obtain ⟨front, cut⟩ := List.getLast?_eq_some_iff.mp ends
      have same : base = ⟨front⟩ ++ "/" := OsText.ext (by simp [cut, bytes_slash])
      right; left
      refine ⟨⟨front⟩, same, ?_⟩
      rw [join, if_neg relative, if_pos (.inr ends), same]
    · right; right
      have ends' : ¬(base.bytes.getLast? = none ∨ base.bytes.getLast? = some slash) := by
        simpa [blank] using ends
      exact ⟨fun same => blank (by rw [same]; rfl), by rw [join, if_neg relative, if_neg ends']⟩

/-- Joining adds one name. It takes the place of the empty name after a slash at the end. -/
theorem names_join (base : OsText) (noSlash : slash ∉ name.bytes) :
    ∃ front, names (join base name) = front ++ [name] ∧
      (names base = front ∨ names base = front ++ [("" : OsText)]) := by
  have single := names_of_noSlash noSlash
  rcases join_cases base noSlash with ⟨rfl, joined⟩ | ⟨front, rfl, joined⟩ | ⟨-, joined⟩
  · exact ⟨[], by rw [joined, single, List.nil_append], .inr (by decide)⟩
  · refine ⟨names front, by rw [joined, names_append_slash, single], .inr ?_⟩
    have trailing := names_append_slash front ""
    rwa [OsText.append_empty] at trailing
  · exact ⟨names base, by rw [joined, names_append_slash, single], .inl rfl⟩

theorem isAbsolute_join (base : OsText) (noSlash : slash ∉ name.bytes) :
    isAbsolute (join base name) = isAbsolute base := by
  rcases join_cases base noSlash with ⟨rfl, joined⟩ | ⟨front, rfl, joined⟩ | ⟨written, joined⟩
  · have relative : name.bytes.head? ≠ some slash := fun starts =>
      noSlash (List.mem_of_head? starts)
    rw [joined, isAbsolute, beq_false_of_ne relative]
    rfl
  · rw [joined, isAbsolute, isAbsolute]
    cases first : front.bytes <;> simp [first, bytes_slash]
  · rw [joined, isAbsolute, isAbsolute]
    cases first : base.bytes with
    | nil => exact absurd (OsText.ext first) written
    | cons byte rest => simp [first]

end Path

namespace Files

/-- A joined path leads one name further. -/
theorem place?_join (files : Files) (base : OsText) {name : OsText}
    (noSlash : Path.slash ∉ name.bytes) :
    files.place? (Path.join base name) = (files.place? base).bind (·.enter? name) := by
  obtain ⟨front, joined, same⟩ := Path.names_join base noSlash
  rw [place?, namesOf, Path.isAbsolute_join base noSlash, joined, ← List.append_assoc,
    FileTree.Place.follow?_concat, place?, namesOf]
  rcases same with same | same
  · rw [same]
  · rw [same, ← List.append_assoc, FileTree.Place.follow?_blank_concat]

theorem place?_foldl_join (files : Files) {entries : List OsText}
    (noSlash : ∀ entry ∈ entries, Path.slash ∉ entry.bytes) (base : OsText) :
    files.place? (entries.foldl Path.join base) =
      (files.place? base).bind (·.follow? entries) := by
  induction entries generalizing base with
  | nil => simp
  | cons entry entries ih =>
    obtain ⟨own, noSlash⟩ := List.forall_mem_cons.mp noSlash
    rw [List.foldl_cons, ih noSlash, files.place?_join base own, Option.bind_assoc]
    rfl

end Files

namespace Tracefs

/-- The names below the root that lead to the format of an event. -/
def formatNames (group name : String) : List OsText := ["events", group, name, "format"]

variable {tracefs : Tracefs} {group name : String} {path : OsText}

theorem formatNames_inj {group' name' : String} :
    formatNames group name = formatNames group' name' ↔ group = group' ∧ name = name' := by
  simp [formatNames, OsText.ofString_inj]

theorem formatPath?_eq_some_iff :
    tracefs.formatPath? group name = some path ↔
      (Path.IsEntryName group ∧ Path.IsEntryName name) ∧
        Path.join (Path.join (tracefs.groupPath group) name) "format" = path := by
  simp [formatPath?, Path.isPlain_iff]

theorem exists_isEntryName_of_mem (groupEntry : Path.IsEntryName group)
    (nameEntry : Path.IsEntryName name) :
    ∀ entry ∈ formatNames group name, ∃ text : String, entry = text ∧ Path.IsEntryName text := by
  have events : Path.IsEntryName "events" := Path.isPlain_iff.mp (by decide)
  have format : Path.IsEntryName "format" := Path.isPlain_iff.mp (by decide)
  simp [formatNames, events, groupEntry, nameEntry, format, OsText.ofString_inj]

/-- The format path of an event leads from the root to the event's format. -/
theorem fileAt?_formatPath (files : Files) (asked : tracefs.formatPath? group name = some path) :
    files.fileAt? path = (files.place? tracefs.root).bind fun place =>
      place.node.fileAt? (formatNames group name) := by
  obtain ⟨⟨groupEntry, nameEntry⟩, rfl⟩ := formatPath?_eq_some_iff.mp asked
  have entries := exists_isEntryName_of_mem groupEntry nameEntry
  have noSlash : ∀ entry ∈ formatNames group name, Path.slash ∉ entry.bytes := by
    intro entry member
    obtain ⟨text, rfl, own⟩ := entries entry member
    exact own.slash_notMem
  have leads : files.place? (Path.join (Path.join (tracefs.groupPath group) name) "format") =
      (files.place? tracefs.root).bind (·.follow? (formatNames group name)) :=
    files.place?_foldl_join noSlash tracefs.root
  rw [Files.fileAt?, leads, Option.bind_assoc]
  congr 1
  funext place
  apply FileTree.Place.bind_follow?_eq_fileAt?
  intro entry member
  obtain ⟨text, rfl, own⟩ := entries entry member
  simp [OsText.ofString_inj, own.named, own.notHere, own.notAbove]

end Tracefs

/-- A store whose events can have format files: each has one text, and its group and name can be
entries of directories. -/
structure FormatStore.IsFileable (store : FormatStore) : Prop where
  distinct : (store.entries.map (·.1)).Nodup
  groups : ∀ entry ∈ store.entries, Path.IsEntryName entry.1.1
  names : ∀ entry ∈ store.entries, Path.IsEntryName entry.1.2

namespace FormatStore
variable {store : FormatStore} {group name text : String}

/-- The entries that have a text at all. -/
def written (store : FormatStore) : FormatStore := ⟨store.entries.filter (·.2 != "")⟩

theorem get?_eq_some_iff (distinct : (store.entries.map (·.1)).Nodup) :
    store.get? group name = some text ↔ ((group, name), text) ∈ store.entries := by
  rw [get?, List.lookup_eq_some_iff]
  constructor
  · rintro ⟨front, back, cut, -⟩
    simp [cut]
  · intro member
    obtain ⟨front, back, cut⟩ := List.append_of_mem member
    refine ⟨front, back, cut, ?_⟩
    intro entry earlier
    rw [cut, List.map_append, List.nodup_append] at distinct
    have other := distinct.2.2 entry.1 (List.mem_map_of_mem earlier) (group, name) (by simp)
    exact bne_iff_ne.mpr other.symm

theorem IsFileable.written (fileable : store.IsFileable) : store.written.IsFileable where
  distinct := fileable.distinct.sublist (List.filter_sublist.map _)
  groups := fun entry member => fileable.groups entry (List.mem_filter.mp member).1
  names := fun entry member => fileable.names entry (List.mem_filter.mp member).1

theorem get?_written (distinct : (store.entries.map (·.1)).Nodup) :
    store.written.get? group name = (store.get? group name).filter (· != "") := by
  have distinct' : (store.written.entries.map (·.1)).Nodup :=
    distinct.sublist (List.filter_sublist.map _)
  ext text
  rw [get?_eq_some_iff distinct', Option.filter_eq_some_iff, get?_eq_some_iff distinct]
  exact List.mem_filter

end FormatStore

namespace Tracefs
variable (tracefs : Tracefs) (files : Files) (read : OsText → Except FileError String)

/-- Below the root are the formats of a store, each in its file, and there are no other files. -/
def Holds (store : FormatStore) : Prop :=
  ∀ names content,
    ((files.place? tracefs.root).bind fun place => place.node.fileAt? names) = some content ↔
      ∃ group name text, ((group, name), text) ∈ store.entries ∧
        names = formatNames group name ∧ content = text.toUTF8

/-- What is asked of a reader: a format file that is there is read as its text, and one that is not
there is not read. -/
structure Reads : Prop where
  present : ∀ group name path text, tracefs.formatPath? group name = some path →
    files.fileAt? path = some text.toUTF8 → read path = .ok text
  missing : ∀ group name path, tracefs.formatPath? group name = some path →
    files.fileAt? path = none → ∃ error, read path = .error error

variable {tracefs files read} {store : FormatStore} {group name : String} {path : OsText}

/-- The file at a format path is the one that the store has for the event. -/
theorem Holds.fileAt?_eq (holds : tracefs.Holds files store) (fileable : store.IsFileable)
    (asked : tracefs.formatPath? group name = some path) :
    files.fileAt? path = (store.get? group name).map String.toUTF8 := by
  rw [fileAt?_formatPath files asked]
  ext content
  rw [holds, Option.map_eq_some_iff]
  constructor
  · rintro ⟨group', name', text, member, same, rfl⟩
    obtain ⟨rfl, rfl⟩ := formatNames_inj.mp same
    exact ⟨text, (FormatStore.get?_eq_some_iff fileable.distinct).mpr member, rfl⟩
  · rintro ⟨text, held, rfl⟩
    have member := (FormatStore.get?_eq_some_iff fileable.distinct).mp held
    exact ⟨group, name, text, member, rfl, rfl⟩

/-- A tracefs that holds a store answers as the store does. -/
theorem text?_source (holds : tracefs.Holds files store) (reads : tracefs.Reads files read)
    (fileable : store.IsFileable) (group name : String) :
    (tracefs.source read group name).text? = store.get? group name := by
  cases asked : tracefs.formatPath? group name with
  | none =>
    have absent : store.get? group name = none := by
      rw [Option.eq_none_iff_forall_ne_some]
      intro text held
      have member := (FormatStore.get?_eq_some_iff fileable.distinct).mp held
      have entries := And.intro (fileable.groups _ member) (fileable.names _ member)
      rw [formatPath?_eq_some_iff.mpr ⟨entries, rfl⟩] at asked
      contradiction
    simp [source, asked, absent]
  | some path =>
    have leads := holds.fileAt?_eq fileable asked
    cases held : store.get? group name with
    | some text =>
      have there : files.fileAt? path = some text.toUTF8 := by rw [leads, held, Option.map_some]
      simp [source, asked, reads.present group name path text asked there]
    | none =>
      have nothing : files.fileAt? path = none := by rw [leads, held, Option.map_none]
      obtain ⟨error, failed⟩ := reads.missing group name path asked nothing
      simp [source, asked, failed]

/-- An operating system reads formats in this way when their paths are within its limits. -/
theorem reads_readText (holds : tracefs.Holds files store) (fileable : store.IsFileable)
    (within : ∀ entry ∈ store.entries, ∀ path,
      tracefs.formatPath? entry.1.1 entry.1.2 = some path → Files.checkPath path = .ok () ∧
        ∀ name ∈ files.namesOf path, name.bytes.length ≤ FileTree.longestName) :
    tracefs.Reads files files.readText where
  present := by
    intro group name path text asked there
    have leads := (holds.fileAt?_eq fileable asked).symm.trans there
    obtain ⟨held, given, -⟩ := Option.map_eq_some_iff.mp leads
    have member := (FormatStore.get?_eq_some_iff fileable.distinct).mp given
    obtain ⟨checked, short⟩ := within _ member path asked
    exact Files.readText_of_fileAt? checked short there
  missing := by
    intro group name path _ nothing
    cases outcome : files.readText path with
    | error error => exact ⟨error, rfl⟩
    | ok text => simp [Files.fileAt?_of_readText outcome] at nothing

end Tracefs

namespace FormatStore
variable {store : FormatStore}

/-- A tree of the formats of a store. -/
def tree (store : FormatStore) : FileTree :=
  store.entries.foldr (fun entry => FileTree.put (.file entry.2.toUTF8)
    (Tracefs.formatNames entry.1.1 entry.1.2)) .empty

theorem get?_cons (entry : (String × String) × String)
    (entries : List ((String × String) × String)) (group name : String) :
    get? ⟨entry :: entries⟩ group name =
      if (group, name) = entry.1 then some entry.2 else get? ⟨entries⟩ group name := by
  by_cases own : (group, name) = entry.1
  · rw [if_pos own, get?, own, List.lookup_cons_self]
  · rw [if_neg own, get?, List.lookup_cons, beq_false_of_ne own, get?]

theorem fileAt?_tree (group name : String) :
    store.tree.fileAt? (Tracefs.formatNames group name) =
      (store.get? group name).map String.toUTF8 := by
  obtain ⟨entries⟩ := store
  induction entries with
  | nil => rfl
  | cons entry entries ih =>
    rw [tree, List.foldr_cons, FileTree.fileAt?_put, get?_cons]
    by_cases own : (group, name) = entry.1
    · obtain ⟨rfl, rfl⟩ := Prod.ext_iff.mp own
      rw [if_pos rfl, if_pos rfl, Option.map_some]
    · have other : Tracefs.formatNames group name ≠ Tracefs.formatNames entry.1.1 entry.1.2 :=
        fun same => own (Prod.ext_iff.mpr (Tracefs.formatNames_inj.mp same))
      -- Formats are all at the same depth, so none is above or below another one.
      have apart : ¬(Tracefs.formatNames group name <+: Tracefs.formatNames entry.1.1 entry.1.2 ∨
          Tracefs.formatNames entry.1.1 entry.1.2 <+: Tracefs.formatNames group name) := by
        rintro (above | below)
        · exact other (above.eq_of_length rfl)
        · exact other (below.eq_of_length rfl).symm
      rw [if_neg other, if_neg apart, if_neg own]
      exact ih

/-- The tree of a store has no other files. -/
theorem exists_eq_formatNames {names : List OsText} {content : ByteArray}
    (held : store.tree.fileAt? names = some content) :
    ∃ group name, names = Tracefs.formatNames group name := by
  obtain ⟨entries⟩ := store
  induction entries with
  | nil => simp [tree] at held
  | cons entry entries ih =>
    rw [tree, List.foldr_cons, FileTree.fileAt?_put] at held
    split_ifs at held with own
    · exact ⟨entry.1.1, entry.1.2, own⟩
    · exact ih held

/-- A store that can be held is held wherever its tree is. -/
theorem holds_tree (fileable : store.IsFileable) {tracefs : Tracefs} {files : Files}
    (root : (files.place? tracefs.root).map (·.node) = some store.tree) :
    tracefs.Holds files store := by
  obtain ⟨place, leads, node⟩ := Option.map_eq_some_iff.mp root
  intro names content
  rw [leads, Option.bind_some, node]
  constructor
  · intro held
    obtain ⟨group, name, rfl⟩ := exists_eq_formatNames held
    rw [fileAt?_tree, Option.map_eq_some_iff] at held
    obtain ⟨text, given, rfl⟩ := held
    exact ⟨group, name, text, (get?_eq_some_iff fileable.distinct).mp given, rfl, rfl⟩
  · rintro ⟨group, name, text, member, rfl, rfl⟩
    rw [fileAt?_tree, (get?_eq_some_iff fileable.distinct).mpr member, Option.map_some]

end FormatStore

end TraceLayout
