import TraceLayout.Proofs.Layout.Accounting
import TraceLayout.Proofs.Layout.RecordFields

/-! The size of an event's records is the largest place where one of its fields or the shared header
ends. It is kept in sixteen bits, and they are always enough. -/
namespace TraceLayout

theorem largestStop_eq (stops : List Nat) : largestStop stops = stops.max?.getD 0 := by
  rw [largestStop, List.foldl_max]
  cases stops.max? with
  | none => rfl
  | some largest => exact Nat.zero_max largest

theorem largestStop_append (front back : List Nat) :
    largestStop (front ++ back) = max (largestStop front) (largestStop back) := by
  apply Nat.le_antisymm
  · apply largestStop_le
    intro stop member
    rcases List.mem_append.mp member with inFront | inBack
    · exact Nat.le_trans (Table.le_foldl_max inFront) (Nat.le_max_left _ _)
    · exact Nat.le_trans (Table.le_foldl_max inBack) (Nat.le_max_right _ _)
  · apply Nat.max_le.mpr
    constructor
    · exact largestStop_le fun stop member =>
        Table.le_foldl_max (List.mem_append_left back member)
    · exact largestStop_le fun stop member =>
        Table.le_foldl_max (List.mem_append_right front member)

/-- Records of the entry's size hold every field of the entry and the header, and shorter ones do
not. Without a field and without a header the size is zero. -/
structure EventLayout.Covers (entry : EventLayout) (header : List ByteSpan) : Prop where
  size : entry.size.toNat = ((entry.fields.map (·.stop) ++ header.map (·.stop)).max?).getD 0
  fields : ∀ field ∈ entry.fields, field.stop ≤ entry.size.toNat
  header : ∀ span ∈ header, span.stop ≤ entry.size.toNat

/-- The declaration without the fields that are dropped under a format. -/
def DeclaredEvent.keeping (event : DeclaredEvent) (format : KernelFormat) : DeclaredEvent :=
  { event with
    fields := event.fields.filter fun field => (FieldOutcome.find format field).layout?.isSome }

namespace Progress
variable {event : DeclaredEvent} {format : KernelFormat} {header : List ByteSpan}

theorem covers_layout (bounded : ∀ span ∈ header, span.stop ≤ KernelFormat.lastByte) :
    (layout event format header).Covers header := by
  have size := @size_layout event format header bounded
  constructor
  · rw [size, ← largestStop_append, largestStop_eq]
  · intro field member
    exact stop_le_size bounded member
  · intro span member
    rw [size]
    exact Nat.le_trans (Table.le_foldl_max (List.mem_map_of_mem member)) (Nat.le_max_right _ _)

/-- A declared field that is dropped leaves no trace in the layout. -/
theorem layout_keeping :
    layout (event.keeping format) format header = layout event format header := by
  have same : (event.keeping format).fields.filterMap
      (fun field => (FieldOutcome.find format field).layout?) =
      event.fields.filterMap fun field => (FieldOutcome.find format field).layout? := by
    rw [DeclaredEvent.keeping, List.filterMap_filter]
    congr 1
    funext field
    cases FieldOutcome.find format field <;> rfl
  simp only [layout, same]
  rfl

end Progress

namespace Build
variable (source : FormatSource) (verify : Bool)

/-- A catalogue without a defect builds into a table whose sizes are exact, also for events that
have another header than the shared one. -/
theorem run_covers (declared : List DeclaredEvent) (clean : Catalogue.defect? declared = none) :
    ∃ build, run source declared verify = .ok build ∧
      ∀ entry ∈ build.table.events, entry.Covers build.table.header ∧
        ∃ event ∈ declared, ∃ format, source.Reads event format ∧
          entry = Progress.layout event format build.table.header ∧
          entry = Progress.layout (event.keeping format) format build.table.header := by
  have sound := Catalogue.defect?_eq_none_iff.mp clean
  refine ⟨_, run_eq_ok source verify clean, ?_⟩
  intro entry present
  have member := (mem_events_ofProgress source verify sound).mp present
  have shared := header_ofProgress source verify sound member
  have bounded := stop_le_of_header? source verify shared
  obtain ⟨event, there, format, header, read, captured, made⟩ :=
    mem_events_resolveAll source verify member
  obtain rfl := Option.some.inj (captured.symm.trans shared)
  constructor
  · rw [made]
    exact Progress.covers_layout bounded
  · exact ⟨event, there, format, FormatSource.reads_iff.mpr read, made,
      made.trans Progress.layout_keeping.symm⟩

/-- The second event has a longer header. Of its fields one is kept, which ends after that header,
and one is dropped, which ends later still. -/
def raiseEvents : List DeclaredEvent :=
  [⟨"ipi_raise", "ipi", 23, []⟩,
   ⟨"ipi_entry", "ipi", 21, [⟨"r", 1, .uint32⟩, ⟨"k", 2, .string⟩]⟩]

def raiseTexts : FormatStore := ⟨[
  (("ipi", "ipi_raise"), "ID:3\nformat:\nfield:u16 g;offset:0;size:2;\n"),
  (("ipi", "ipi_entry"),
    "ID:9\nformat:\nfield:u64 h;offset:0;size:8;\n\n" ++
      "field:u32 r;offset:20;size:4;\nfield:u32 k;offset:40;size:4;\n")]⟩

theorem run_covers_sample :
    Catalogue.defect? raiseEvents = none ∧
    ∃ build, run raiseTexts.source raiseEvents true = .ok build ∧
      (∀ entry ∈ build.table.events, entry.Covers build.table.header) ∧
      build.table.header = [⟨0, 2⟩] ∧
      build.table.events.map (fun entry => (entry.id, entry.size)) = [(3, 2), (9, 24)] ∧
      build.table.events.flatMap (·.fields.map (·.stop)) = [24] ∧
      .headerDiffers "ipi_entry" ∈ build.diagnostics := by
  obtain ⟨build, made, covers⟩ := run_covers raiseTexts.source true raiseEvents (by decide)
  have seen := check_of_run (fun build => build.table.header = [⟨0, 2⟩] &&
    build.table.events.map (fun entry => (entry.id, entry.size)) = [(3, 2), (9, 24)] &&
    build.table.events.flatMap (·.fields.map (·.stop)) = [24] &&
    build.diagnostics.contains (.headerDiffers "ipi_entry")) made (by decide +kernel)
  simp only [Bool.and_eq_true, decide_eq_true_eq, List.contains_iff_mem] at seen
  obtain ⟨⟨⟨header, sizes⟩, kept⟩, differs⟩ := seen
  exact ⟨by decide, build, made, fun entry member => (covers entry member).1, header, sizes,
    kept, differs⟩

end Build

end TraceLayout
