import TraceLayout.Proofs.Catalogue.Soundness
import TraceLayout.Proofs.Kernel.ParsedFormat
import TraceLayout.Proofs.Layout.DenseTable
import TraceLayout.Proofs.Layout.Resolution

/-! The table of a build is a dense index of the events that resolved. Sound declarations make names
distinct, parsed formats make ids positive, and a build gives no id twice. -/
namespace TraceLayout

/-- What it means for a table to index events: slots by id up to the largest one, and names. -/
structure Table.IsDenseIndex (table : Table) (resolved : List EventLayout) : Prop where
  /-- Without events there is the slot of id zero alone. -/
  smallest : resolved = [] → table.slots.size = 1
  /-- The last slot belongs to the largest id. -/
  largest : resolved ≠ [] → ∃ event ∈ resolved, table.slots.size = event.id.toNat + 1 ∧
    ∀ other ∈ resolved, other.id ≤ event.id
  bounded : table.slots.size ≤ 65536
  reserved : table.slots[0]? = some .blank
  slots : ∀ (slot : Nat) (entry : EventLayout), table.slots[slot]? = some entry →
    entry = .blank ∨ (entry.id.toNat = slot ∧ entry.id ≠ 0 ∧ entry.number ≠ 0)
  present : table.events.Perm resolved
  names : ∀ name slot, table.names.get? name = some slot ↔
    ∃ event ∈ table.events, event.name = name ∧ event.id.toNat = slot ∧
      table.slots[slot]? = some event
  byName : ∀ name event, table.getName? name = some event ↔
    event ∈ table.events ∧ event.name = name
  byId : ∀ id event, table.getId? id = some event ↔ event ∈ table.events ∧ event.id = id
  beyond : ∀ id : UInt32, table.largestId < id.toNat → table.getId? id = none
  vacant : ∀ id : UInt32, table.slots[id.toNat]? = some .blank → table.getId? id = none
  increasing : table.events.Pairwise (·.id < ·.id)
  size : table.size = table.events.length
  isEmpty : table.isEmpty = true ↔ table.events = []

/-- When an event is written to the table its slot exists and is blank, and its name is free. -/
def Table.WritesFresh (events : List EventLayout) (header : List ByteSpan) : Prop :=
  ∀ before event after, events = before ++ event :: after →
    (before.foldl put (vacant (largestIdOf events) header)).slots[event.id.toNat]? = some .blank ∧
    (before.foldl put (vacant (largestIdOf events) header)).names.get? event.name = none

namespace Indexable
variable {events : List EventLayout} (fit : Indexable events) (header : List ByteSpan)
include fit

theorem size_slots_le : (Table.ofEvents events header).slots.size ≤ 65536 := by
  rw [size_slots_eq]
  by_cases none_ : events = []
  · simp [none_]
  · obtain ⟨event, member, largest⟩ := Table.exists_largestIdOf none_
    have bound := fit.bounded event member
    omega

theorem slot_zero : (Table.ofEvents events header).slots[0]? = some .blank := by
  have inside : 0 < (Table.ofEvents events header).slots.size := by
    rw [size_slots_eq]
    exact Nat.succ_pos _
  cases held : (Table.ofEvents events header).slots[0]? with
  | none => exact absurd (Array.getElem?_eq_none_iff.mp held) (Nat.not_le_of_lt inside)
  | some entry =>
    rcases fit.slot_cases held with ⟨rfl, -⟩ | ⟨member, zero⟩
    · rfl
    · exact absurd (UInt32.toNat_inj.mp zero) (fit.assigned entry member).2

theorem isDenseIndex : (Table.ofEvents events header).IsDenseIndex events where
  smallest := by
    rintro rfl
    exact size_slots_eq [] header
  largest := by
    intro some_
    obtain ⟨event, member, largest⟩ := Table.exists_largestIdOf some_
    refine ⟨event, member, by rw [size_slots_eq, largest], ?_⟩
    intro other there
    rw [UInt32.le_iff_toNat_le, ← largest]
    exact Table.le_largestIdOf there
  bounded := fit.size_slots_le header
  reserved := fit.slot_zero header
  slots := by
    intro slot entry held
    rcases fit.slot_cases held with ⟨blank, -⟩ | ⟨member, same⟩
    · exact .inl blank
    · exact .inr ⟨same, (fit.assigned entry member).2, (fit.assigned entry member).1⟩
  present := fit.events_perm header
  names := by
    intro name slot
    rw [fit.get?_names_eq, Option.map_eq_some_iff]
    constructor
    · rintro ⟨event, found, rfl⟩
      obtain ⟨member, same⟩ := (find?_eq_some_iff fit.names).mp found
      exact ⟨event, (fit.mem_events_iff header).mpr member, same, rfl,
        fit.slot_eq_of_mem header member⟩
    · rintro ⟨event, there, same, slotOf, -⟩
      exact ⟨event, (find?_eq_some_iff fit.names).mpr ⟨(fit.mem_events_iff header).mp there, same⟩,
        slotOf⟩
  byName := by
    intro name event
    rw [fit.getName?_eq, find?_eq_some_iff fit.names, fit.mem_events_iff]
  byId := by
    intro id event
    rw [fit.getId?_eq, find?_eq_some_iff fit.ids, fit.mem_events_iff]
  beyond := by
    intro id above
    have outside : (Table.ofEvents events header).slots[id.toNat]? = none := by
      apply Array.getElem?_eq_none_iff.mpr
      unfold Table.largestId at above
      omega
    simp [Table.getId?, outside]
  vacant := by
    intro id blank
    rw [Table.getId?, blank]
    rfl
  increasing := fit.pairwise_events header
  size := by rw [fit.size_eq, (fit.events_perm header).length_eq]
  isEmpty := by
    rw [Table.isEmpty, beq_iff_eq, fit.size_eq, ← (fit.events_perm header).length_eq,
      List.length_eq_zero_iff]

theorem writesFresh : Table.WritesFresh events header := by
  rintro before event after rfl
  apply fit.write_fresh header
  exact Table.le_largestIdOf (by simp)

end Indexable

namespace Build
variable (source : FormatSource) (verify : Bool)

/-- A build gives no id twice, since an id that is taken does not resolve. -/
theorem nodup_ids_resolveAll (declared : List DeclaredEvent) :
    ((resolveAll source verify declared).events.map (·.id)).Nodup := by
  induction declared using List.reverseRecOn with
  | nil => exact List.nodup_nil
  | append_singleton declared event ih =>
    rw [(resolveAll_step source verify declared event).1]
    rcases source.fate_cases declared event with
      ⟨-, -, noEntry⟩ | ⟨format, first, -, -, taken⟩ | ⟨format, -, free, resolved⟩
    · simpa [noEntry] using ih
    · simpa [taken, Fate.layout?] using ih
    · have unclaimed := congrFun (claimant?_resolveAll source verify declared) format.id
      rw [free, Option.map_none, Progress.claimant?, Option.map_eq_none_iff,
        List.find?_eq_none] at unclaimed
      rw [resolved, Fate.layout?, Option.toList_some, List.map_append, List.nodup_append]
      refine ⟨ih, List.nodup_singleton _, ?_⟩
      intro id member other own same
      obtain ⟨entry, there, rfl⟩ := List.mem_map.mp member
      obtain rfl := List.mem_singleton.mp own
      exact unclaimed entry there (by simpa [Progress.layout] using same)

theorem indexable_resolveAll {declared : List DeclaredEvent} (sound : Catalogue.IsSound declared) :
    Indexable (resolveAll source verify declared).events where
  assigned := by
    intro entry member
    obtain ⟨event, there, format, shared, read, -, rfl⟩ :=
      mem_events_resolveAll source verify member
    obtain ⟨text, -, -, parsed⟩ := FormatSource.parse_of_format? read
    exact ⟨(sound.each event there).numbered, (KernelFormat.id_of_parse parsed).1⟩
  bounded := by
    intro entry member
    obtain ⟨event, -, format, shared, read, -, rfl⟩ := mem_events_resolveAll source verify member
    obtain ⟨text, -, -, parsed⟩ := FormatSource.parse_of_format? read
    exact (KernelFormat.id_of_parse parsed).2
  ids := nodup_ids_resolveAll source verify declared
  names := (names_resolveAll source verify declared).nodup sound.distinct

theorem published_resolveAll {declared : List DeclaredEvent} (sound : Catalogue.IsSound declared) :
    (resolveAll source verify declared).published = (resolveAll source verify declared).events := by
  apply List.filter_eq_self.mpr
  intro entry member
  have assigned := (indexable_resolveAll source verify sound).assigned entry member
  simp [EventLayout.isAssigned, assigned.1, assigned.2]

section Sound
variable {declared : List DeclaredEvent} (sound : Catalogue.IsSound declared)
include sound

theorem table_ofProgress :
    (ofProgress declared.length (resolveAll source verify declared)).table =
      .ofEvents (resolveAll source verify declared).events
        ((resolveAll source verify declared).header?.getD []) := by
  rw [ofProgress, published_resolveAll source verify sound]

theorem getId?_ofProgress (id : UInt32) :
    (ofProgress declared.length (resolveAll source verify declared)).table.getId? id =
      (resolveAll source verify declared).events.find? (·.id == id) := by
  rw [table_ofProgress source verify sound, (indexable_resolveAll source verify sound).getId?_eq]

theorem getName?_ofProgress (name : String) :
    (ofProgress declared.length (resolveAll source verify declared)).table.getName? name =
      (resolveAll source verify declared).events.find? (·.name == name) := by
  rw [table_ofProgress source verify sound, (indexable_resolveAll source verify sound).getName?_eq]

theorem mem_events_ofProgress {entry : EventLayout} :
    entry ∈ (ofProgress declared.length (resolveAll source verify declared)).table.events ↔
      entry ∈ (resolveAll source verify declared).events := by
  rw [table_ofProgress source verify sound,
    (indexable_resolveAll source verify sound).mem_events_iff]

theorem size_ofProgress :
    (ofProgress declared.length (resolveAll source verify declared)).table.size =
      (resolveAll source verify declared).events.length := by
  rw [table_ofProgress source verify sound, (indexable_resolveAll source verify sound).size_eq]

theorem largestId_ofProgress :
    (ofProgress declared.length (resolveAll source verify declared)).table.largestId =
      Table.largestIdOf (resolveAll source verify declared).events := by
  rw [table_ofProgress source verify sound, Indexable.largestId_eq]

/-- A table with an event in it has the header that was captured. -/
theorem header_ofProgress {entry : EventLayout}
    (member : entry ∈ (resolveAll source verify declared).events) :
    (resolveAll source verify declared).header? =
      some (ofProgress declared.length (resolveAll source verify declared)).table.header := by
  obtain ⟨-, -, -, shared, -, captured, -⟩ := mem_events_resolveAll source verify member
  rw [table_ofProgress source verify sound, Table.header_ofEvents, captured, Option.getD_some]

end Sound

theorem run_eq_ok {declared : List DeclaredEvent} (clean : Catalogue.defect? declared = none) :
    run source declared verify =
      .ok (ofProgress declared.length (resolveAll source verify declared)) := by
  simp [run, clean]

/-- What is computed to hold of a build holds of the build that is made. -/
theorem check_of_run {source : FormatSource} {declared : List DeclaredEvent} {verify : Bool}
    {build : Build} (check : Build → Bool) (made : run source declared verify = .ok build)
    (computed : (run source declared verify).toOption.any check = true) : check build = true := by
  rw [made] at computed
  exact computed

/-- A catalogue without a defect builds into a dense index of the events that resolve, and no write
to it is lost or falls outside. -/
theorem run_isDenseIndex (declared : List DeclaredEvent)
    (clean : Catalogue.defect? declared = none) :
    ∃ build, run source declared verify = .ok build ∧
      build.table.IsDenseIndex (resolveAll source verify declared).events ∧
      ∃ header, build.table = .ofEvents (resolveAll source verify declared).published header ∧
        Table.WritesFresh (resolveAll source verify declared).published header := by
  have sound := Catalogue.defect?_eq_none_iff.mp clean
  have fit := indexable_resolveAll source verify sound
  refine ⟨_, run_eq_ok source verify clean, ?_, _, rfl, ?_⟩
  · rw [ofProgress, published_resolveAll source verify sound]
    exact fit.isDenseIndex _
  · rw [published_resolveAll source verify sound]
    exact fit.writesFresh _

/-- Four declared events. One field is wanted twice, the second time as a type that cannot hold
it. -/
def sampleEvents : List DeclaredEvent :=
  [⟨"sched_blocked_reason", "sched", 18, [⟨"pid", 1, .int64⟩, ⟨"pid", 2, .uint32⟩]⟩,
   ⟨"ipi_raise", "ipi", 23, []⟩, ⟨"ipi_entry", "ipi", 21, []⟩, ⟨"ipi_exit", "ipi", 22, []⟩]

/-- Texts for three of the events. The third repeats the id of the first. -/
def sampleTexts : FormatStore := ⟨[
  (("sched", "sched_blocked_reason"),
    "ID: 9\nformat:\nfield:u8 h;offset:0;size:1;\n\nfield:int pid;offset:8;size:4;signed:1;\n"),
  (("ipi", "ipi_raise"), "ID: 3\nformat:\nfield:u8 h;offset:0;size:1;\n"),
  (("ipi", "ipi_entry"), "ID: 9\nformat:\nfield:u8 h;offset:0;size:1;\n")]⟩

theorem run_isDenseIndex_sample :
    Catalogue.defect? sampleEvents = none ∧
    (resolveAll sampleTexts.source true sampleEvents).events.map (·.id) = [9, 3] ∧
    ∃ build, run sampleTexts.source sampleEvents true = .ok build ∧
      build.table.IsDenseIndex (resolveAll sampleTexts.source true sampleEvents).events ∧
      ∃ header,
        build.table = .ofEvents (resolveAll sampleTexts.source true sampleEvents).published header ∧
        Table.WritesFresh (resolveAll sampleTexts.source true sampleEvents).published header :=
  ⟨by decide, by decide +kernel, run_isDenseIndex _ _ _ (by decide)⟩

end Build

end TraceLayout
