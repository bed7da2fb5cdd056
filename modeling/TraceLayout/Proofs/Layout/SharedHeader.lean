import TraceLayout.Proofs.Kernel.ParsedFormat
import TraceLayout.Proofs.Layout.Accounting

/-! The header that all events of a table share. It is captured once, from the first declared event
whose text parses, and an event with another header changes nothing but the reports. -/
namespace TraceLayout

/-- The header of a format has another number of fields than the shared one, or another field at
some position. -/
def KernelFormat.HeaderDiffers (format : KernelFormat) (shared : List ByteSpan) : Prop :=
  format.header.length ≠ shared.length ∨
    ∃ (i : Nat) (own : i < format.header.length) (other : i < shared.length),
      format.header[i].offset ≠ shared[i].offset ∨ format.header[i].size ≠ shared[i].size

theorem KernelFormat.headerDiffers_iff {format : KernelFormat} {shared : List ByteSpan} :
    format.HeaderDiffers shared ↔ shared ≠ format.headerSpans := by
  constructor
  · rintro (length | ⟨i, own, other, different⟩) rfl
    · exact length (by rw [headerSpans, List.length_map])
    · simp [headerSpans] at different
  · intro different
    by_cases length : format.header.length = shared.length
    · refine .inr (Classical.byContradiction fun agree => different ?_)
      apply List.ext_getElem
      · rw [headerSpans, List.length_map, length]
      · intro i other own
        rw [headerSpans, List.length_map] at own
        have same : ¬ (format.header[i].offset ≠ shared[i].offset ∨
          format.header[i].size ≠ shared[i].size) := fun apart => agree ⟨i, own, other, apart⟩
        simp only [ne_eq, not_or, not_not] at same
        simp [headerSpans, same]
    · exact .inl length

instance (format : KernelFormat) (shared : List ByteSpan) :
    Decidable (format.HeaderDiffers shared) :=
  decidable_of_iff _ KernelFormat.headerDiffers_iff.symm

/-- Whether a header is reported that is not the shared one. -/
def Diagnostic.isHeaderDiffers : Diagnostic → Bool
  | .headerDiffers _ => true
  | .unavailable .. | .unparsable .. | .idTaken .. | .fieldMissing .. | .fieldUnsupported ..
  | .fieldTooLong .. => false

namespace Fate
variable {verify : Bool} {event : DeclaredEvent} {shared? : Option (List ByteSpan)}

theorem isHeaderDiffers_of_mem_fields {format : KernelFormat} {diagnostic : Diagnostic}
    (member : diagnostic ∈ event.fields.filterMap (fun field =>
      (FieldOutcome.find format field).diagnostic? event.name field)) :
    diagnostic.isHeaderDiffers = false := by
  obtain ⟨field, -, made⟩ := List.mem_filterMap.mp member
  cases outcome : FieldOutcome.find format field with
  | kept _ => simp [outcome, FieldOutcome.diagnostic?] at made
  | missing | unsupported _ | tooLong _ =>
    rw [outcome] at made
    obtain rfl := Option.some.inj made
    rfl

/-- Whether headers are compared matters for no other report. -/
theorem filter_reports (fate : Fate) :
    (reports verify event shared? fate).filter (!·.isHeaderDiffers) =
      reports false event shared? fate := by
  cases fate with
  | unavailable | unparsable _ | idTaken _ _ => rfl
  | resolved format =>
    rw [reports, reports, List.filter_append, List.filter_eq_self.mpr ?_]
    · congr 1
      split <;> rfl
    · intro diagnostic member
      rw [isHeaderDiffers_of_mem_fields member, Bool.not_false]

theorem count_reports (format : KernelFormat) :
    (reports verify event shared? (.resolved format)).count (.headerDiffers event.name) =
      if verify && shared?.getD format.headerSpans != format.headerSpans then 1 else 0 := by
  have ofFields : .headerDiffers event.name ∉ event.fields.filterMap (fun field =>
      (FieldOutcome.find format field).diagnostic? event.name field) := by
    intro member
    have other := isHeaderDiffers_of_mem_fields member
    contradiction
  rw [reports, List.count_append, List.count_eq_zero.mpr ofFields, Nat.zero_add]
  split
  · exact List.count_singleton_self
  · rfl

/-- An event is reported for its header only if it resolves, and one is captured already. -/
theorem resolved_of_mem_reports {name : String} {fate : Fate}
    (member : .headerDiffers name ∈ reports verify event shared? fate) :
    ∃ format shared, fate = .resolved format ∧ shared? = some shared := by
  cases fate with
  | unavailable | unparsable _ | idTaken _ _ => simp [reports] at member
  | resolved format =>
    cases shared? with
    | some shared => exact ⟨format, shared, rfl, rfl⟩
    | none =>
      rw [reports, List.mem_append] at member
      rcases member with ofField | ofHeader
      · have other := isHeaderDiffers_of_mem_fields ofField
        contradiction
      · simp at ofHeader

end Fate

/-- The header of a table is that of the first declared event whose text parses. There is none
exactly if the table is empty. -/
structure Table.SharesHeader (table : Table) (source : FormatSource)
    (declared : List DeclaredEvent) : Prop where
  captured : ∀ before event after format, declared = before ++ event :: after →
    source.Reads event format → (∀ other ∈ before, ∀ format, ¬ source.Reads other format) →
    table.header = format.headerSpans
  eq_nil_iff : table.header = [] ↔ table.isEmpty = true

/-- Which declared events a build reports for their headers. -/
structure Build.ComparesHeaders (build : Build) (source : FormatSource)
    (declared : List DeclaredEvent) : Prop where
  resolved : ∀ before event after format, declared = before ++ event :: after →
    source.Decides before event (.resolved format) →
    build.diagnostics.count (.headerDiffers event.name) =
      if format.HeaderDiffers build.table.header then 1 else 0
  dropped : ∀ before event after, declared = before ++ event :: after →
    (∀ format, ¬ source.Decides before event (.resolved format)) →
    .headerDiffers event.name ∉ build.diagnostics
  first : ∀ before event after, declared = before ++ event :: after →
    (∀ other ∈ before, ∀ format, ¬ source.Reads other format) →
    .headerDiffers event.name ∉ build.diagnostics
  declared : ∀ name, .headerDiffers name ∈ build.diagnostics → name ∈ declared.map (·.name)

namespace Build
variable (source : FormatSource) (verify : Bool)

/-- No header is captured exactly as long as no event has resolved. -/
theorem header?_eq_none_iff (declared : List DeclaredEvent) :
    (resolveAll source verify declared).header? = none ↔
      (resolveAll source verify declared).events = [] := by
  induction declared using List.reverseRecOn with
  | nil => exact ⟨fun _ => rfl, fun _ => rfl⟩
  | append_singleton declared event ih =>
    obtain ⟨stepEvents, stepHeader, -⟩ := resolveAll_step source verify declared event
    rw [stepEvents, stepHeader, Option.or_eq_none_iff, List.append_eq_nil_iff, ih]
    rcases source.fate_cases declared event with
      ⟨-, noHeader, noEntry⟩ | ⟨format, first, -, -, taken⟩ | ⟨format, -, -, resolved⟩
    · simp [noHeader, noEntry]
    · simp [taken, Fate.header?, Fate.layout?]
    · simp [resolved, Fate.header?, Fate.layout?]

/-- A header that is captured was read from the text of a declared event. -/
theorem exists_reads_of_header? {declared : List DeclaredEvent} {shared : List ByteSpan}
    (captured : (resolveAll source verify declared).header? = some shared) :
    ∃ event ∈ declared, ∃ format, source.Reads event format ∧ shared = format.headerSpans := by
  rw [header?_resolveAll, Option.map_eq_some_iff] at captured
  obtain ⟨format, found, rfl⟩ := captured
  obtain ⟨event, there, read⟩ := List.exists_of_findSome?_eq_some found
  exact ⟨event, there, format, FormatSource.reads_iff.mpr read, rfl⟩

theorem header?_eq_none_of_unread {declared : List DeclaredEvent}
    (unread : ∀ event ∈ declared, ∀ format, ¬ source.Reads event format) :
    (resolveAll source verify declared).header? = none := by
  apply Option.eq_none_iff_forall_ne_some.mpr
  intro shared captured
  obtain ⟨event, there, format, reads, -⟩ := exists_reads_of_header? source verify captured
  exact unread event there format reads

/-- The header that an event with a format is held against is that of the finished table. -/
theorem header?_getD_of_reads {before after : List DeclaredEvent} {event : DeclaredEvent}
    {format : KernelFormat} (reads : source.Reads event format) :
    (resolveAll source verify (before ++ event :: after)).header? =
      some ((resolveAll source verify before).header?.getD format.headerSpans) := by
  rw [header?_resolveAll, header?_resolveAll, List.findSome?_append, List.findSome?_cons,
    FormatSource.reads_iff.mp reads]
  cases before.findSome? source.format? <;> rfl

/-- A report on an event is in the build as often as the event's own step made it. -/
theorem count_resolveAll {before after : List DeclaredEvent} {event : DeclaredEvent}
    (distinct : ((before ++ event :: after).map (·.name)).Nodup) (report : Diagnostic)
    (own : report.event = event.name) :
    (resolveAll source verify (before ++ event :: after)).diagnostics.count report =
      ((source.fate before event).reports verify event
        (resolveAll source verify before).header?).count report := by
  rw [← filter_resolveAll source verify distinct]
  refine (List.count_filter ?_).symm
  exact beq_iff_eq.mpr own

/-- Comparing headers adds reports of them to a run, and changes nothing else. -/
theorem resolveAll_unverified (declared : List DeclaredEvent) :
    (resolveAll source false declared).events = (resolveAll source true declared).events ∧
      (resolveAll source false declared).header? = (resolveAll source true declared).header? ∧
      (resolveAll source false declared).diagnostics =
        (resolveAll source true declared).diagnostics.filter (!·.isHeaderDiffers) := by
  induction declared using List.reverseRecOn with
  | nil => exact ⟨rfl, rfl, rfl⟩
  | append_singleton declared event ih =>
    obtain ⟨sameEvents, sameHeader, sameReports⟩ := ih
    obtain ⟨events, header, reports⟩ := resolveAll_step source false declared event
    obtain ⟨events', header', reports'⟩ := resolveAll_step source true declared event
    rw [events, header, reports, events', header', reports', sameEvents, sameHeader, sameReports,
      List.filter_append, Fate.filter_reports]
    exact ⟨rfl, rfl, rfl⟩

section Sound
variable {declared : List DeclaredEvent} (sound : Catalogue.IsSound declared)
include sound

theorem sharesHeader_ofProgress :
    (ofProgress declared.length (resolveAll source verify declared)).table.SharesHeader source
      declared := by
  have header : (ofProgress declared.length (resolveAll source verify declared)).table.header =
      (resolveAll source verify declared).header?.getD [] := by
    rw [table_ofProgress source verify sound, Table.header_ofEvents]
  refine ⟨?_, ?_⟩
  · rintro before event after format rfl reads unread
    rw [header, header?_getD_of_reads source verify reads,
      header?_eq_none_of_unread source verify unread]
    rfl
  · have empty : (ofProgress declared.length (resolveAll source verify declared)).table.isEmpty =
        true ↔ (resolveAll source verify declared).header? = none := by
      rw [Table.isEmpty, beq_iff_eq, size_ofProgress source verify sound, List.length_eq_zero_iff,
        header?_eq_none_iff]
    rw [empty, header]
    cases captured : (resolveAll source verify declared).header? with
    | none => simp
    | some shared =>
      obtain ⟨event, -, format, ⟨text, -, parsed⟩, rfl⟩ :=
        exists_reads_of_header? source verify captured
      have filled := KernelFormat.header_ne_nil_of_parse parsed
      simp [KernelFormat.headerSpans, filled]

theorem comparesHeaders_ofProgress :
    (ofProgress declared.length (resolveAll source true declared)).ComparesHeaders source
      declared := by
  have reported {before after : List DeclaredEvent} {event : DeclaredEvent}
      (split : declared = before ++ event :: after)
      (member : .headerDiffers event.name ∈ (resolveAll source true declared).diagnostics) :
      ∃ format shared, source.Decides before event (.resolved format) ∧
        (resolveAll source true before).header? = some shared := by
    subst split
    rw [← List.count_pos_iff, count_resolveAll source true sound.distinct _ rfl,
      List.count_pos_iff] at member
    obtain ⟨format, shared, resolved, captured⟩ := Fate.resolved_of_mem_reports member
    exact ⟨format, shared, FormatSource.decides_iff.mpr resolved.symm, captured⟩
  refine ⟨?_, ?_, ?_, ?_⟩
  · rintro before event after format rfl decides
    have reads : source.Reads event format := by
      cases decides with
      | resolved answers parsed free => exact ⟨_, answers, parsed⟩
    have header : (ofProgress (before ++ event :: after).length
        (resolveAll source true (before ++ event :: after))).table.header =
        (resolveAll source true before).header?.getD format.headerSpans := by
      rw [table_ofProgress source true sound, Table.header_ofEvents,
        header?_getD_of_reads source true reads, Option.getD_some]
    have count := count_resolveAll source true sound.distinct (.headerDiffers event.name) rfl
    rw [header]
    refine count.trans ?_
    rw [← FormatSource.decides_iff.mp decides, Fate.count_reports]
    simp [KernelFormat.headerDiffers_iff]
  · intro before event after split unresolved member
    obtain ⟨format, -, decides, -⟩ := reported split member
    exact unresolved format decides
  · intro before event after split unread member
    obtain ⟨-, shared, -, captured⟩ := reported split member
    rw [header?_eq_none_of_unread source true unread] at captured
    contradiction
  · intro name member
    exact owners_resolveAll source true declared _ member

end Sound

/-- A catalogue without a defect builds into a table that shares the header of the first event whose
text parses, and no header that is read is empty. Every event that resolves with another header is
reported once, if headers are compared. -/
theorem run_sharesHeader (declared : List DeclaredEvent)
    (clean : Catalogue.defect? declared = none) :
    (∀ text format, KernelFormat.parse text = .ok format → format.header ≠ []) ∧
    ∃ build, run source declared verify = .ok build ∧
      build.table.SharesHeader source declared ∧
      (verify = true → build.ComparesHeaders source declared) := by
  have sound := Catalogue.defect?_eq_none_iff.mp clean
  refine ⟨fun _ _ => KernelFormat.header_ne_nil_of_parse, _, run_eq_ok source verify clean,
    sharesHeader_ofProgress source verify sound, ?_⟩
  rintro rfl
  exact comparesHeaders_ofProgress source sound

/-- The first text does not parse, the header of the second is shared, and the fourth text has
another one. The last text has another one too, but repeats an id. -/
def headerEvents : List DeclaredEvent :=
  [⟨"ipi_raise", "ipi", 23, []⟩, ⟨"ipi_entry", "ipi", 21, []⟩, ⟨"ipi_exit", "ipi", 22, []⟩,
   ⟨"cpu_idle", "power", 20, []⟩, ⟨"cpu_frequency", "power", 11, []⟩]

def headerTexts : FormatStore := ⟨[
  (("ipi", "ipi_raise"), "ID:0\nformat:\nfield:u64 h;offset:0;size:8;\n"),
  (("ipi", "ipi_entry"), "ID:9\nformat:\n\n\nfield:u16 g;offset:0;size:2;\n"),
  (("ipi", "ipi_exit"), "ID:3\nformat:\nfield:s16 h;offset:0;size:2;\n"),
  (("power", "cpu_idle"), "ID:4\nformat:\nfield:u16 g;offset:2;size:2;\n"),
  (("power", "cpu_frequency"), "ID:3\nformat:\nfield:u64 h;offset:0;size:8;\n")]⟩

theorem run_sharesHeader_sample :
    Catalogue.defect? headerEvents = none ∧
    ∃ build, run headerTexts.source headerEvents true = .ok build ∧
      build.table.SharesHeader headerTexts.source headerEvents ∧
      build.ComparesHeaders headerTexts.source headerEvents ∧
      build.table.header = [⟨0, 2⟩] ∧
      headerEvents.map (fun event => build.diagnostics.count (.headerDiffers event.name)) =
        [0, 0, 0, 1, 0] := by
  obtain ⟨-, build, made, shares, compares⟩ :=
    run_sharesHeader headerTexts.source true headerEvents (by decide)
  have seen := check_of_run (fun build => build.table.header = [⟨0, 2⟩] &&
    headerEvents.map (fun event => build.diagnostics.count (.headerDiffers event.name)) =
      [0, 0, 0, 1, 0]) made (by decide +kernel)
  simp only [Bool.and_eq_true, decide_eq_true_eq] at seen
  exact ⟨by decide, build, made, shares, compares rfl, seen.1, seen.2⟩

/-- A build that does not compare headers has the table of one that does, and its reports are those
of the other without the ones of headers. -/
theorem run_unverified (declared : List DeclaredEvent)
    (clean : Catalogue.defect? declared = none) :
    ∃ compared uncompared, run source declared true = .ok compared ∧
      run source declared false = .ok uncompared ∧ uncompared.table = compared.table ∧
      uncompared.diagnostics = compared.diagnostics.filter (!·.isHeaderDiffers) := by
  obtain ⟨events, header, reports⟩ := resolveAll_unverified source declared
  refine ⟨_, _, run_eq_ok source true clean, run_eq_ok source false clean, ?_, reports⟩
  rw [ofProgress, ofProgress, Progress.published, Progress.published, events, header]

/-- Two reports are left of three. -/
theorem run_unverified_sample :
    Catalogue.defect? headerEvents = none ∧
    ∃ compared uncompared, run headerTexts.source headerEvents true = .ok compared ∧
      run headerTexts.source headerEvents false = .ok uncompared ∧
      uncompared.table = compared.table ∧
      uncompared.diagnostics = compared.diagnostics.filter (!·.isHeaderDiffers) ∧
      compared.diagnostics.map (·.isHeaderDiffers) = [false, true, false] := by
  obtain ⟨compared, uncompared, made, made', table, reports⟩ :=
    run_unverified headerTexts.source headerEvents (by decide)
  have seen := check_of_run (fun build =>
    build.diagnostics.map (·.isHeaderDiffers) = [false, true, false]) made (by decide +kernel)
  exact ⟨by decide, compared, uncompared, made, made', table, reports, of_decide_eq_true seen⟩

end Build

end TraceLayout
