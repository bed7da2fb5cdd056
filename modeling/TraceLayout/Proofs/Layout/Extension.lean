import TraceLayout.Proofs.Layout.Accounting

/-! Declarations that follow others leave all that the others have built as it is. They may repeat
an id, come with another header or lengthen the table, but whatever was found is found again. -/
namespace TraceLayout

namespace Build

/-- One build keeps all of another one, and what is new comes from the events that were added. -/
structure Extends (whole first : Build) (added : List DeclaredEvent) : Prop where
  diagnostics : first.diagnostics <+: whole.diagnostics
  byId : ∀ id entry, first.table.getId? id = some entry → whole.table.getId? id = some entry
  byName : ∀ name entry, first.table.getName? name = some entry →
    whole.table.getName? name = some entry
  added : ∀ entry ∈ whole.table.events, entry ∉ first.table.events →
    ∃ event ∈ added, event.name = entry.name ∧ event.group = entry.group ∧
      event.number = entry.number
  header : first.table.events ≠ [] → whole.table.header = first.table.header
  largestId : first.table.largestId ≤ whole.table.largestId
  size : first.table.size ≤ whole.table.size

variable (source : FormatSource) (verify : Bool) (front back : List DeclaredEvent)

/-- The first event with a format sets the header for good. -/
theorem header?_append {shared : List ByteSpan}
    (captured : (resolveAll source verify front).header? = some shared) :
    (resolveAll source verify (front ++ back)).header? = some shared := by
  rw [header?_resolveAll] at captured ⊢
  rw [List.findSome?_append, Option.map_or, captured, Option.some_or]

/-- An entry that is not among those of the events in front belongs to an event behind. -/
theorem exists_declared_of_added (distinct : ((front ++ back).map (·.name)).Nodup)
    {entry : EventLayout} (member : entry ∈ (resolveAll source verify (front ++ back)).events)
    (isNew : entry ∉ (resolveAll source verify front).events) :
    ∃ event ∈ back, event.name = entry.name ∧ event.group = entry.group ∧
      event.number = entry.number := by
  obtain ⟨event, there, format, shared, -, -, made⟩ := mem_events_resolveAll source verify member
  have name : event.name = entry.name := by rw [made]; rfl
  obtain ⟨entries, -, sameEvents, -, names, -⟩ :=
    exists_resolveAll_append source verify front back
  rw [sameEvents] at member
  have added := (List.mem_append.mp member).resolve_left isNew
  -- Only the names of new entries are known to come from behind, and no name is declared twice.
  have behind : event.name ∈ back.map (·.name) :=
    names.subset (List.mem_map.mpr ⟨entry, added, name.symm⟩)
  have notInFront : event ∉ front := by
    intro inFront
    rw [List.map_append] at distinct
    exact (List.nodup_append.mp distinct).2.2 _ (List.mem_map_of_mem inFront) _ behind rfl
  exact ⟨event, (List.mem_append.mp there).resolve_left notInFront, name, by rw [made]; rfl,
    by rw [made]; rfl⟩

theorem extends_ofProgress (sound : Catalogue.IsSound (front ++ back)) :
    (ofProgress (front ++ back).length (resolveAll source verify (front ++ back))).Extends
      (ofProgress front.length (resolveAll source verify front)) back := by
  have soundFront := sound.of_subperm (List.sublist_append_left front back).subperm
  obtain ⟨entries, reports, sameEvents, sameReports, -, -⟩ :=
    exists_resolveAll_append source verify front back
  constructor
  case diagnostics => exact ⟨reports, sameReports.symm⟩
  case byId =>
    intro id entry found
    rw [getId?_ofProgress source verify soundFront] at found
    rw [getId?_ofProgress source verify sound, sameEvents, List.find?_append, found, Option.some_or]
  case byName =>
    intro name entry found
    rw [getName?_ofProgress source verify soundFront] at found
    rw [getName?_ofProgress source verify sound, sameEvents, List.find?_append, found,
      Option.some_or]
  case added =>
    intro entry member isNew
    rw [mem_events_ofProgress source verify sound] at member
    rw [mem_events_ofProgress source verify soundFront] at isNew
    exact exists_declared_of_added source verify front back sound.distinct member isNew
  case header =>
    intro filled
    obtain ⟨entry, present⟩ := List.exists_mem_of_ne_nil _ filled
    have member := (mem_events_ofProgress source verify soundFront).mp present
    have inWhole : entry ∈ (resolveAll source verify (front ++ back)).events := by
      rw [sameEvents]
      exact List.mem_append_left entries member
    have captured := header_ofProgress source verify soundFront member
    have kept := header?_append source verify front back captured
    exact Option.some.inj ((header_ofProgress source verify sound inWhole).symm.trans kept)
  case largestId =>
    rw [largestId_ofProgress source verify soundFront, largestId_ofProgress source verify sound]
    apply Table.largestIdOf_le_of_subset
    rw [sameEvents]
    exact List.subset_append_left _ _
  case size =>
    rw [size_ofProgress source verify soundFront, size_ofProgress source verify sound, sameEvents,
      List.length_append]
    exact Nat.le_add_right _ _

/-- Events that are declared after others never disturb the build of the others, whatever their
ids and headers are. -/
theorem run_append (clean : Catalogue.defect? (front ++ back) = none) :
    ∃ first whole, run source front verify = .ok first ∧
      run source (front ++ back) verify = .ok whole ∧ whole.Extends first back := by
  have sound := Catalogue.defect?_eq_none_iff.mp clean
  have soundFront := sound.of_subperm (List.sublist_append_left front back).subperm
  have cleanFront := Catalogue.defect?_eq_none_iff.mpr soundFront
  exact ⟨_, _, run_eq_ok source verify cleanFront, run_eq_ok source verify clean,
    extends_ofProgress source verify front back sound⟩

def earlyEvents : List DeclaredEvent := [⟨"ipi_raise", "ipi", 23, [⟨"v", 1, .uint32⟩]⟩]

def lateEvents : List DeclaredEvent := [⟨"ipi_entry", "ipi", 21, []⟩, ⟨"ipi_exit", "ipi", 22, []⟩]

/-- The second text has another header than the first, and the third repeats its id. -/
def ipiTexts : FormatStore := ⟨[
  (("ipi", "ipi_raise"), "ID:3\nformat:\nfield:u16 g;offset:0;size:2;\n"),
  (("ipi", "ipi_entry"), "ID:9\nformat:\nfield:u8 h;offset:0;size:1;\n"),
  (("ipi", "ipi_exit"), "ID:3\nformat:\nfield:u16 g;offset:0;size:2;\n")]⟩

theorem run_append_sample :
    Catalogue.defect? (earlyEvents ++ lateEvents) = none ∧
    ∃ first whole, run ipiTexts.source earlyEvents true = .ok first ∧
      run ipiTexts.source (earlyEvents ++ lateEvents) true = .ok whole ∧
      whole.Extends first lateEvents ∧
      whole.table.events.map (·.id) = [3, 9] ∧
      whole.diagnostics = [.fieldMissing "ipi_raise" "v", .headerDiffers "ipi_entry",
        .idTaken "ipi_exit" 3 "ipi_raise"] := by
  obtain ⟨first, whole, madeFirst, made, grown⟩ :=
    run_append ipiTexts.source true earlyEvents lateEvents (by decide)
  have seen := check_of_run (fun whole => whole.table.events.map (·.id) = [3, 9] &&
    whole.diagnostics = [.fieldMissing "ipi_raise" "v", .headerDiffers "ipi_entry",
      .idTaken "ipi_exit" 3 "ipi_raise"]) made (by decide +kernel)
  simp only [Bool.and_eq_true, decide_eq_true_eq] at seen
  exact ⟨by decide, first, whole, madeFirst, made, grown, seen⟩

end Build

end TraceLayout
