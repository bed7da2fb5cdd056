import TraceLayout.Proofs.Layout.Accounting

/-! What becomes of each declared field of an event that resolves. The declared fields are passed in
their order, and each one leaves either a field of the table or one report. -/
namespace TraceLayout

/-- The first of the event's own fields that has a name. A field of the header never counts. -/
def KernelFormat.First (format : KernelFormat) (name : String) (kernel : KernelField) : Prop :=
  ∃ earlier later, format.fields = earlier ++ kernel :: later ∧ kernel.name = name ∧
    ∀ other ∈ earlier, other.name ≠ name

/-- A pass over the declared fields of an event, with the fields that it keeps and the reports that
it makes. -/
inductive KernelFormat.Settles (format : KernelFormat) (event : String) :
    List DeclaredField → List FieldLayout → List Diagnostic → Prop
  | nil : Settles format event [] [] []
  | missing (absent : ∀ kernel ∈ format.fields, kernel.name ≠ field.name)
      (rest : Settles format event wanted kept reports) :
      Settles format event (field :: wanted) kept (.fieldMissing event field.name :: reports)
  | untyped (first : format.First field.name kernel) (unknown : kernel.type? = none)
      (rest : Settles format event wanted kept reports) :
      Settles format event (field :: wanted) kept
        (.fieldUnsupported event field.name none field.type :: reports)
  | unsupported (first : format.First field.name kernel) (known : kernel.type? = some type)
      (refused : Conversion.between? type field.type = none)
      (rest : Settles format event wanted kept reports) :
      Settles format event (field :: wanted) kept
        (.fieldUnsupported event field.name (some type) field.type :: reports)
  | tooLong (first : format.First field.name kernel) (known : kernel.type? = some type)
      (chosen : Conversion.between? type field.type = some conversion)
      (long : 65535 < kernel.offset.toNat + kernel.size.toNat)
      (rest : Settles format event wanted kept reports) :
      Settles format event (field :: wanted) kept
        (.fieldTooLong event field.name (kernel.offset.toNat + kernel.size.toNat) :: reports)
  | kept (first : format.First field.name kernel) (known : kernel.type? = some type)
      (chosen : Conversion.between? type field.type = some conversion)
      (short : kernel.offset.toNat + kernel.size.toNat ≤ 65535)
      (rest : Settles format event wanted kept reports) :
      Settles format event (field :: wanted)
        (⟨field.name, field.number, field.type, kernel.offset, kernel.size, type, conversion⟩
          :: kept) reports

section Find
variable {format : KernelFormat} {field : DeclaredField} {kernel : KernelField} {type : KernelType}
  {conversion : Conversion}

theorem KernelFormat.field?_eq_some_iff {name : String} :
    format.field? name = some kernel ↔ format.First name kernel := by
  rw [field?, List.find?_eq_some_iff_append]
  constructor
  · rintro ⟨same, earlier, later, split, others⟩
    refine ⟨earlier, later, split, by simpa using same, ?_⟩
    intro other member
    simpa using others other member
  · rintro ⟨earlier, later, split, same, others⟩
    refine ⟨by simpa using same, earlier, later, split, ?_⟩
    intro other member
    simpa using others other member

theorem KernelFormat.field?_eq_none_iff {name : String} :
    format.field? name = none ↔ ∀ kernel ∈ format.fields, kernel.name ≠ name := by
  simp [field?]

namespace FieldOutcome

theorem find_of_absent (absent : ∀ kernel ∈ format.fields, kernel.name ≠ field.name) :
    find format field = .missing := by
  rw [find, KernelFormat.field?_eq_none_iff.mpr absent]

theorem find_of_untyped (first : format.First field.name kernel) (unknown : kernel.type? = none) :
    find format field = .unsupported kernel := by
  rw [find, KernelFormat.field?_eq_some_iff.mpr first]
  simp only [unknown]

theorem find_of_refused (first : format.First field.name kernel) (known : kernel.type? = some type)
    (refused : Conversion.between? type field.type = none) :
    find format field = .unsupported kernel := by
  rw [find, KernelFormat.field?_eq_some_iff.mpr first]
  simp only [known, refused]

theorem find_of_long (first : format.First field.name kernel) (known : kernel.type? = some type)
    (chosen : Conversion.between? type field.type = some conversion)
    (long : 65535 < kernel.offset.toNat + kernel.size.toNat) :
    find format field = .tooLong (kernel.offset.toNat + kernel.size.toNat) := by
  rw [find, KernelFormat.field?_eq_some_iff.mpr first]
  simp only [known, chosen]
  exact if_pos long

theorem find_of_short (first : format.First field.name kernel) (known : kernel.type? = some type)
    (chosen : Conversion.between? type field.type = some conversion)
    (short : kernel.offset.toNat + kernel.size.toNat ≤ 65535) :
    find format field = .kept
      ⟨field.name, field.number, field.type, kernel.offset, kernel.size, type, conversion⟩ := by
  rw [find, KernelFormat.field?_eq_some_iff.mpr first]
  simp only [known, chosen]
  exact if_neg (Nat.not_lt_of_le short)

end FieldOutcome

end Find

namespace KernelFormat
variable {format : KernelFormat} {event : String} {fields : List DeclaredField}
  {kept : List FieldLayout} {reports : List Diagnostic}

theorem settles_self (format : KernelFormat) (event : String) (fields : List DeclaredField) :
    format.Settles event fields
      (fields.filterMap fun field => (FieldOutcome.find format field).layout?)
      (fields.filterMap fun field => (FieldOutcome.find format field).diagnostic? event field) := by
  induction fields with
  | nil => exact .nil
  | cons field fields rest =>
    rw [List.filterMap_cons, List.filterMap_cons]
    cases found : format.field? field.name with
    | none =>
      have absent := field?_eq_none_iff.mp found
      rw [FieldOutcome.find_of_absent absent]
      exact .missing absent rest
    | some kernel =>
      have first := field?_eq_some_iff.mp found
      cases known : kernel.type? with
      | none =>
        rw [FieldOutcome.find_of_untyped first known]
        simpa only [FieldOutcome.layout?, FieldOutcome.diagnostic?, known] using
          Settles.untyped first known rest
      | some type =>
        cases chosen : Conversion.between? type field.type with
        | none =>
          rw [FieldOutcome.find_of_refused first known chosen]
          simpa only [FieldOutcome.layout?, FieldOutcome.diagnostic?, known] using
            Settles.unsupported first known chosen rest
        | some conversion =>
          by_cases long : 65535 < kernel.offset.toNat + kernel.size.toNat
          · rw [FieldOutcome.find_of_long first known chosen long]
            exact .tooLong first known chosen long rest
          · have short := Nat.le_of_not_lt long
            rw [FieldOutcome.find_of_short first known chosen short]
            exact .kept first known chosen short rest

/-- A pass can end in one way only. -/
theorem settles_iff :
    format.Settles event fields kept reports ↔
      kept = fields.filterMap (fun field => (FieldOutcome.find format field).layout?) ∧
      reports = fields.filterMap
        (fun field => (FieldOutcome.find format field).diagnostic? event field) := by
  constructor
  · intro settled
    induction settled with
    | nil => exact ⟨rfl, rfl⟩
    | missing absent _ ih =>
      obtain ⟨rfl, rfl⟩ := ih
      rw [List.filterMap_cons, List.filterMap_cons, FieldOutcome.find_of_absent absent]
      exact ⟨rfl, rfl⟩
    | untyped first unknown _ ih =>
      obtain ⟨rfl, rfl⟩ := ih
      rw [List.filterMap_cons, List.filterMap_cons, FieldOutcome.find_of_untyped first unknown]
      simp only [FieldOutcome.layout?, FieldOutcome.diagnostic?, unknown, and_self]
    | unsupported first known refused _ ih =>
      obtain ⟨rfl, rfl⟩ := ih
      rw [List.filterMap_cons, List.filterMap_cons,
        FieldOutcome.find_of_refused first known refused]
      simp only [FieldOutcome.layout?, FieldOutcome.diagnostic?, known, and_self]
    | tooLong first known chosen long _ ih =>
      obtain ⟨rfl, rfl⟩ := ih
      rw [List.filterMap_cons, List.filterMap_cons,
        FieldOutcome.find_of_long first known chosen long]
      exact ⟨rfl, rfl⟩
    | kept first known chosen short _ ih =>
      obtain ⟨rfl, rfl⟩ := ih
      rw [List.filterMap_cons, List.filterMap_cons,
        FieldOutcome.find_of_short first known chosen short]
      exact ⟨rfl, rfl⟩
  · rintro ⟨rfl, rfl⟩
    exact settles_self format event fields

/-- Each declared field leaves a field or a report. -/
theorem Settles.length_add (settled : format.Settles event fields kept reports) :
    kept.length + reports.length = fields.length := by
  induction settled with
  | nil => rfl
  | missing _ _ ih | untyped _ _ _ ih | unsupported _ _ _ _ ih | tooLong _ _ _ _ _ ih =>
    rw [List.length_cons, List.length_cons, ← ih, Nat.add_assoc]
  | kept _ _ _ _ _ ih =>
    rw [List.length_cons, List.length_cons, ← ih, Nat.add_right_comm]

end KernelFormat

/-- Whether a report is about one field of an event, which the event then lacks. -/
def Diagnostic.dropsField : Diagnostic → Bool
  | .fieldMissing .. | .fieldUnsupported .. | .fieldTooLong .. => true
  | .unavailable .. | .unparsable .. | .idTaken .. | .headerDiffers .. => false

theorem Fate.dropsField_of_diagnostic? {event : String} {field : DeclaredField}
    {outcome : FieldOutcome} {report : Diagnostic}
    (made : outcome.diagnostic? event field = some report) : report.dropsField = true := by
  cases outcome with
  | kept _ => contradiction
  | missing | unsupported _ | tooLong _ =>
    obtain rfl := Option.some.inj made
    rfl

theorem Fate.filter_dropsField_reports (verify : Bool) (event : DeclaredEvent)
    (shared? : Option (List ByteSpan)) (format : KernelFormat) :
    (reports verify event shared? (.resolved format)).filter (·.dropsField) =
      event.fields.filterMap fun field =>
        (FieldOutcome.find format field).diagnostic? event.name field := by
  have ofFields : (event.fields.filterMap fun field =>
      (FieldOutcome.find format field).diagnostic? event.name field).filter (·.dropsField) =
      event.fields.filterMap fun field =>
        (FieldOutcome.find format field).diagnostic? event.name field := by
    apply List.filter_eq_self.mpr
    intro report member
    obtain ⟨field, -, made⟩ := List.mem_filterMap.mp member
    exact dropsField_of_diagnostic? made
  rw [reports, List.filter_append, ofFields]
  split
  · exact List.append_nil _
  · exact List.append_nil _

namespace Build
variable (source : FormatSource) (verify : Bool)

/-- The reports of a build about single fields of an event. -/
def fieldReportsOf (build : Build) (name : String) : List Diagnostic :=
  (build.reportsOf name).filter (·.dropsField)

/-- An event is in the table only if it has resolved. -/
theorem resolved_of_find? {before after : List DeclaredEvent} {event : DeclaredEvent}
    (distinct : ((before ++ event :: after).map (·.name)).Nodup) {entry : EventLayout}
    (found : (resolveAll source verify (before ++ event :: after)).events.find?
      (·.name == event.name) = some entry) :
    ∃ format header, source.Reads event format ∧
      source.fate before event = .resolved format ∧
      entry = Progress.layout event format header := by
  rw [find?_resolveAll source verify distinct] at found
  cases fate : source.fate before event with
  | unavailable | unparsable _ | idTaken _ _ =>
    rw [fate] at found
    contradiction
  | resolved format =>
    rw [fate] at found
    exact ⟨format, _, FormatSource.reads_iff.mpr (FormatSource.format?_of_resolved fate), rfl,
      (Option.some.inj found).symm⟩

/-- In the build of a catalogue without a defect, the fields of every event in the table and the
reports about its fields are what one pass over the declared fields leaves. -/
theorem run_settles (declared : List DeclaredEvent) (clean : Catalogue.defect? declared = none) :
    ∃ build, run source declared verify = .ok build ∧
      ∀ event ∈ declared, ∀ entry, build.table.getName? event.name = some entry →
        ∃ format, source.Reads event format ∧
          (∀ kept reports, format.Settles event.name event.fields kept reports ↔
            kept = entry.fields ∧ reports = build.fieldReportsOf event.name) ∧
          entry.fields.length + (build.fieldReportsOf event.name).length = event.fields.length := by
  have sound := Catalogue.defect?_eq_none_iff.mp clean
  refine ⟨_, run_eq_ok source verify clean, ?_⟩
  intro event member entry held
  -- What is decided on an event depends on the events before it, which own other names.
  obtain ⟨before, after, rfl⟩ := List.append_of_mem member
  rw [getName?_ofProgress source verify sound] at held
  obtain ⟨format, header, read, fate, rfl⟩ :=
    resolved_of_find? source verify sound.distinct held
  have reported : (ofProgress (before ++ event :: after).length
      (resolveAll source verify (before ++ event :: after))).fieldReportsOf event.name =
      event.fields.filterMap fun field =>
        (FieldOutcome.find format field).diagnostic? event.name field := by
    rw [fieldReportsOf, reportsOf, ofProgress, filter_resolveAll source verify sound.distinct, fate]
    exact Fate.filter_dropsField_reports verify event _ format
  rw [reported]
  have settled := KernelFormat.settles_self format event.name event.fields
  exact ⟨format, read, fun kept reports => KernelFormat.settles_iff, settled.length_add⟩

/-- An event that wants a field of the header, one field that ends too late, and one field three
times. -/
def wakeupEvent : DeclaredEvent :=
  ⟨"sched_wakeup", "sched", 17,
    [⟨"p", 1, .int64⟩, ⟨"p", 2, .uint32⟩, ⟨"h", 3, .uint32⟩, ⟨"f", 4, .uint64⟩, ⟨"p", 5, .int32⟩]⟩

def wakeupTexts : FormatStore := ⟨[
  (("sched", "sched_wakeup"),
    "ID:9\nformat:\nfield:u8 h;offset:0;size:1;\n\n" ++
    "field:int p;offset:8;size:4;signed:1;\nfield:u32 p;offset:20;size:4;\n" ++
    "field:u64 f;offset:65535;size:8;\n")]⟩

/-- The second kernel field of a name does not help where the first one is refused. -/
theorem run_settles_sample :
    Catalogue.defect? [wakeupEvent] = none ∧ wakeupEvent ∈ [wakeupEvent] ∧
    ∃ build entry format, run wakeupTexts.source [wakeupEvent] true = .ok build ∧
      build.table.getName? "sched_wakeup" = some entry ∧
      wakeupTexts.source.Reads wakeupEvent format ∧
      format.Settles "sched_wakeup" wakeupEvent.fields entry.fields
        (build.fieldReportsOf "sched_wakeup") ∧
      entry.fields.map (·.number) = [1, 5] ∧
      build.fieldReportsOf "sched_wakeup" =
        [.fieldUnsupported "sched_wakeup" "p" (some (.integer ⟨.w32, true⟩)) .uint32,
          .fieldMissing "sched_wakeup" "h", .fieldTooLong "sched_wakeup" "f" 65543] := by
  obtain ⟨build, made, each⟩ := run_settles wakeupTexts.source true [wakeupEvent] (by decide)
  have seen := check_of_run (fun build =>
    (build.table.getName? "sched_wakeup").any (fun entry =>
      entry.fields.map (·.number) = [1, 5]) &&
    build.fieldReportsOf "sched_wakeup" =
      [.fieldUnsupported "sched_wakeup" "p" (some (.integer ⟨.w32, true⟩)) .uint32,
        .fieldMissing "sched_wakeup" "h", .fieldTooLong "sched_wakeup" "f" 65543]) made
    (by decide +kernel)
  simp only [Bool.and_eq_true, decide_eq_true_eq] at seen
  obtain ⟨kept, reported⟩ := seen
  obtain ⟨entry, held, numbers⟩ := (Option.any_eq_true _ _).mp kept
  obtain ⟨format, read, settled, -⟩ := each wakeupEvent List.mem_cons_self entry held
  exact ⟨by decide, List.mem_cons_self, build, entry, format, made, held, read,
    (settled _ _).mpr ⟨rfl, rfl⟩, by simpa using numbers, reported⟩

end Build

end TraceLayout
