import Mathlib.Data.List.Basic
import TraceLayout.Proofs.Files.FormatTree

/-! What the path of a format is made of. Below the components of the root it has those of the
events directory, the group, the event and the format, whatever the group and the event are called,
and a group or an event that cannot be such a component has no path at all. -/
namespace TraceLayout

namespace Path

/-- A part of a path. Slashes that follow each other stand for one, and a dot stands for nothing
except where a path starts with it. -/
inductive Component
  | root
  | here
  | above
  | name (name : OsText)
  deriving DecidableEq, Repr

def Component.ofName? (name : OsText) : Option Component :=
  if name = "" ∨ name = "." then none
  else if name = ".." then some .above
  else some (.name name)

/-- The component that a path starts with, if it is not a name. -/
def origin (path : OsText) : List Component :=
  if isAbsolute path then [.root]
  else if (names path).head? = some (.ofString ".") then [.here]
  else []

def components (path : OsText) : List Component :=
  origin path ++ (names path).filterMap Component.ofName?

variable {name : String}

theorem IsEntryName.ofName? (entry : IsEntryName name) :
    Component.ofName? name = some (.name name) := by
  simp [Component.ofName?, OsText.ofString_inj, entry.named, entry.notHere, entry.notAbove]

/-- A path that is joined to another one goes on where that one ends. -/
theorem exists_join_eq_append (base : OsText) {name : OsText} (noSlash : slash ∉ name.bytes) :
    ∃ rest, join base name = base ++ rest := by
  rcases join_cases base noSlash with ⟨rfl, joined⟩ | ⟨front, rfl, joined⟩ | ⟨-, joined⟩
  · exact ⟨name, by rw [joined, OsText.empty_append]⟩
  · exact ⟨name, joined⟩
  · exact ⟨"/" ++ name, by rw [joined, OsText.append_assoc]⟩

theorem origin_join (base : OsText) (entry : IsEntryName name) :
    origin (join base name) = origin base := by
  obtain ⟨front, joined, same⟩ := names_join base entry.slash_notMem
  have starts : (names (join base name)).head? = some (.ofString ".") ↔
      (names base).head? = some (.ofString ".") := by
    cases front with
    | cons first front =>
      rcases same with same | same <;> rw [joined, same] <;> rfl
    | nil =>
      have notHere : name ≠ "." := entry.notHere
      rcases same with same | same <;> simp [joined, same, notHere, OsText.ofString_inj]
  simp only [origin, isAbsolute_join base entry.slash_notMem, starts]

/-- Joining an entry adds it as one component. -/
theorem components_join (base : OsText) (entry : IsEntryName name) :
    components (join base name) = components base ++ [.name name] := by
  obtain ⟨front, joined, same⟩ := names_join base entry.slash_notMem
  have blank : Component.ofName? "" = none := rfl
  rw [components, components, origin_join base entry, joined, List.append_assoc]
  rcases same with same | same <;> simp [same, entry.ofName?, blank]

end Path

namespace Tracefs

/-- How the path of an event's format continues the root. No component of it leads back, and it
starts as the root does. -/
structure StaysBelow (tracefs : Tracefs) (group name : String) (path : OsText) : Prop where
  components : Path.components path =
    Path.components tracefs.root ++ (formatNames group name).map Path.Component.name
  entries : ∀ entry ∈ formatNames group name, ∃ text : String, entry = text ∧ Path.IsEntryName text
  continues : ∃ rest, path = tracefs.root ++ rest

variable {tracefs : Tracefs} {group name : String} {path : OsText}

/-- Joining entries one after another adds them in this order. -/
theorem components_foldl_join {entries : List OsText}
    (plain : ∀ entry ∈ entries, ∃ text : String, entry = text ∧ Path.IsEntryName text)
    (base : OsText) :
    Path.components (entries.foldl Path.join base) =
        Path.components base ++ entries.map Path.Component.name ∧
      ∃ rest, entries.foldl Path.join base = base ++ rest := by
  induction entries generalizing base with
  | nil => exact ⟨by simp, "", (OsText.append_empty base).symm⟩
  | cons entry entries ih =>
    obtain ⟨own, others⟩ := List.forall_mem_cons.mp plain
    obtain ⟨text, rfl, own⟩ := own
    obtain ⟨below, rest, continued⟩ := ih others (Path.join base text)
    obtain ⟨rest', joined⟩ := Path.exists_join_eq_append base own.slash_notMem
    constructor
    · rw [List.foldl_cons, below, Path.components_join base own, List.map_cons, List.append_assoc,
        List.singleton_append]
    · exact ⟨rest' ++ rest, by rw [List.foldl_cons, continued, joined, OsText.append_assoc]⟩

theorem staysBelow_of_formatPath? (asked : tracefs.formatPath? group name = some path) :
    tracefs.StaysBelow group name path := by
  obtain ⟨⟨groupEntry, nameEntry⟩, rfl⟩ := formatPath?_eq_some_iff.mp asked
  have entries := exists_isEntryName_of_mem groupEntry nameEntry
  obtain ⟨components, continued⟩ := components_foldl_join entries tracefs.root
  exact ⟨components, entries, continued⟩

/-- Paths of formats are those of plain groups and names, and stay below the root. Two events with
one path are the same, and a source reads at most the path of the event that it is asked for. -/
theorem formatPath?_staysBelow (tracefs : Tracefs) (group name : String) :
    ((∃ path, tracefs.formatPath? group name = some path) ↔
      Path.IsEntryName group ∧ Path.IsEntryName name) ∧
    (∀ path, tracefs.formatPath? group name = some path →
      tracefs.StaysBelow group name path ∧
      (∀ group' name', tracefs.formatPath? group' name' = some path →
        group' = group ∧ name' = name) ∧
      ∀ read read', read path = read' path →
        tracefs.source read group name = tracefs.source read' group name) ∧
    (tracefs.formatPath? group name = none → ∀ read,
      tracefs.source read group name = ⟨none, [.pathRejected group name]⟩) := by
  refine ⟨?_, ?_, ?_⟩
  · simp only [formatPath?_eq_some_iff]
    exact ⟨fun ⟨_, entries, _⟩ => entries, fun entries => ⟨_, entries, rfl⟩⟩
  · intro path asked
    have stays := staysBelow_of_formatPath? asked
    refine ⟨stays, ?_, ?_⟩
    · intro group' name' asked'
      have stays' := staysBelow_of_formatPath? asked'
      have same := List.append_cancel_left (stays'.components.symm.trans stays.components)
      have injective : Function.Injective Path.Component.name := fun _ _ => Path.Component.name.inj
      exact formatNames_inj.mp (List.map_injective_iff.mpr injective same)
    · intro read read' same
      simp only [source, asked, same]
  · intro rejected read
    simp only [source, rejected]

/-- Dots in a name are no harm, and a name with a slash has no path. -/
theorem formatPath?_staysBelow_sample :
    formatPath? ⟨"./mnt//trace/"⟩ "ipi" "..ipi exit" =
        some (.ofString "./mnt//trace/events/ipi/..ipi exit/format") ∧
      Path.components "./mnt//trace/events/ipi/..ipi exit/format" =
        [.here, .name "mnt", .name "trace", .name "events", .name "ipi", .name "..ipi exit",
          .name "format"] ∧
      formatPath? ⟨"./mnt//trace/"⟩ "ipi" "../exit" = none ∧
      ∀ read, source ⟨"./mnt//trace/"⟩ read "ipi" "../exit" =
        ⟨none, [.pathRejected "ipi" "../exit"]⟩ := by
  have asked : formatPath? ⟨"./mnt//trace/"⟩ "ipi" "..ipi exit" =
      some (.ofString "./mnt//trace/events/ipi/..ipi exit/format") := by decide +kernel
  have rejected : formatPath? ⟨"./mnt//trace/"⟩ "ipi" "../exit" = none := by decide +kernel
  obtain ⟨-, paths, -⟩ := formatPath?_staysBelow ⟨"./mnt//trace/"⟩ "ipi" "..ipi exit"
  obtain ⟨-, -, unread⟩ := formatPath?_staysBelow ⟨"./mnt//trace/"⟩ "ipi" "../exit"
  have root : Path.components "./mnt//trace/" = [.here, .name "mnt", .name "trace"] := by
    decide +kernel
  have components := (paths _ asked).1.components
  rw [root] at components
  exact ⟨asked, components, rejected, unread rejected⟩

end Tracefs

end TraceLayout
