import Mathlib.Data.List.Forall2
import TraceLayout.Proofs.Layout.FieldResolution
import TraceLayout.Proofs.Layout.SharedHeader

/-! What a build logs. Every report has one notice of its own, in the order of the reports, except
that of a field which ends too late: it is reported, but no notice is made of it. The size of the
table comes last. -/
namespace TraceLayout

namespace Diagnostic

/-- How grave the notice of a report is. A kernel that lacks what is declared is no reason to warn. -/
def level : Diagnostic → Level
  | .unavailable .. | .fieldMissing .. | .fieldUnsupported .. | .fieldTooLong .. => .debug
  | .unparsable .. | .idTaken .. | .headerDiffers .. => .warn

def isFieldTooLong : Diagnostic → Bool
  | .fieldTooLong .. => true
  | .unavailable .. | .unparsable .. | .idTaken .. | .fieldMissing .. | .fieldUnsupported ..
  | .headerDiffers .. => false

end Diagnostic

/-- The notice of a report on a declared event. Both say the same of the same event and field. -/
inductive Notice.Logs (declared : List DeclaredEvent) : Notice → Diagnostic → Prop
  | unavailable (there : event ∈ declared) :
      Logs declared (.unavailable event.path) (.unavailable event.group event.name)
  | unparsable (there : event ∈ declared) :
      Logs declared (.unparsable event.path error) (.unparsable event.group event.name error)
  | idTaken (there : event ∈ declared) (id : UInt32) :
      Logs declared (.idTaken event.path id existing) (.idTaken event.name id existing)
  | fieldMissing (there : event ∈ declared) (wanted : field ∈ event.fields) :
      Logs declared (.fieldMissing event.name field.name) (.fieldMissing event.name field.name)
  | fieldUnsupported (there : event ∈ declared) (wanted : field ∈ event.fields)
      (kernel : KernelField) :
      Logs declared (.fieldUnsupported event.name field.name kernel.declaration field.type)
        (.fieldUnsupported event.name field.name kernel.type? field.type)
  | headerDiffers (there : event ∈ declared) :
      Logs declared (.headerDiffers event.name) (.headerDiffers event.name)

theorem Notice.map_level_of_logs {declared : List DeclaredEvent} {lines : List Notice}
    {reports : List Diagnostic} (logged : List.Forall₂ (Notice.Logs declared) lines reports) :
    lines.map (·.level) = reports.map (·.level) := by
  induction logged with
  | nil => rfl
  | cons own _ ih =>
    rw [List.map_cons, List.map_cons, ih]
    cases own <;> rfl

/-- What is logged of some reports: a notice of each, and then the size of the table. -/
structure Build.LogsReports (build : Build) (declared : List DeclaredEvent)
    (reports : List Diagnostic) : Prop where
  lines : ∃ lines, List.Forall₂ (Notice.Logs declared) lines reports ∧
    build.notices = lines ++
      [.tableBuilt build.table.size declared.length build.diagnostics.length]
  levels : build.notices.map (·.level) = reports.map (·.level) ++ [.info]

namespace Fate

/-- What is logged of the event. -/
def notices (verify : Bool) (event : DeclaredEvent) (shared? : Option (List ByteSpan)) :
    Fate → List Notice
  | .unavailable => [.unavailable event.path]
  | .unparsable error => [.unparsable event.path error]
  | .idTaken id existing => [.idTaken event.path id existing]
  | .resolved format =>
    event.fields.filterMap (fun field =>
      (FieldOutcome.find format field).notice? event.name field)
    ++ (if verify && shared?.getD format.headerSpans != format.headerSpans then
      [.headerDiffers event.name] else [])

variable {declared : List DeclaredEvent} {event : DeclaredEvent}

/-- A pass over some fields of an event logs each of its reports but those of fields that end too
late. -/
theorem logs_fields (there : event ∈ declared) (format : KernelFormat) {fields : List DeclaredField}
    (wanted : ∀ field ∈ fields, field ∈ event.fields) :
    List.Forall₂ (Notice.Logs declared)
      (fields.filterMap fun field => (FieldOutcome.find format field).notice? event.name field)
      ((fields.filterMap fun field =>
        (FieldOutcome.find format field).diagnostic? event.name field).filter
          (!·.isFieldTooLong)) := by
  induction fields with
  | nil => exact .nil
  | cons field fields ih =>
    obtain ⟨own, wanted⟩ := List.forall_mem_cons.mp wanted
    rw [List.filterMap_cons, List.filterMap_cons]
    cases FieldOutcome.find format field with
    | kept _ | tooLong _ => exact ih wanted
    | missing => exact .cons (.fieldMissing there own) (ih wanted)
    | unsupported kernel => exact .cons (.fieldUnsupported there own kernel) (ih wanted)

theorem logs_reports (there : event ∈ declared) (verify : Bool)
    (shared? : Option (List ByteSpan)) (fate : Fate) :
    List.Forall₂ (Notice.Logs declared) (fate.notices verify event shared?)
      ((fate.reports verify event shared?).filter (!·.isFieldTooLong)) := by
  cases fate with
  | unavailable => exact .cons (.unavailable there) .nil
  | unparsable error => exact .cons (.unparsable there) .nil
  | idTaken id existing => exact .cons (.idTaken there id) .nil
  | resolved format =>
    rw [notices, reports, List.filter_append]
    apply List.rel_append (logs_fields there format fun _ member => member)
    split
    · exact .cons (.headerDiffers there) .nil
    · exact .nil

end Fate

/-- A step logs what its source does, and then what becomes of the event. -/
theorem Progress.notices_step (source : FormatSource) (verify : Bool) (seen : Progress)
    (event : DeclaredEvent) {fate : Fate}
    (own : .ofParsed seen.claimant? (source.parsed? event) = fate) :
    (step source verify seen event).notices =
      seen.notices ++ (source event.group event.name).notices ++
        fate.notices verify event seen.header? := by
  subst own
  unfold step FormatSource.parsed?
  cases answer : (source event.group event.name).text?.filter (· != "") with
  | none => simp [answer, report, Fate.ofParsed, Fate.notices]
  | some text =>
    simp only [answer, Option.map_some]
    cases parsed : KernelFormat.parse text with
    | error error => simp [report, Fate.ofParsed, Fate.notices]
    | ok format =>
      simp only [Fate.ofParsed, claimant?]
      cases taken : seen.events.find? (·.id == format.id) with
      | some existing => simp [report, Fate.notices]
      | none =>
        simp only [Option.map_none, resolve, Fate.notices]
        rw [List.filterMap_map, List.append_assoc]
        rfl

namespace Build

/-- A source that logs nothing leaves a run to log its own reports. -/
theorem logs_resolveAll (source : FormatSource)
    (silent : ∀ group name, (source group name).notices = []) (verify : Bool)
    {declared part : List DeclaredEvent} (within : ∀ event ∈ part, event ∈ declared) :
    List.Forall₂ (Notice.Logs declared) (resolveAll source verify part).notices
      ((resolveAll source verify part).diagnostics.filter (!·.isFieldTooLong)) := by
  induction part using List.reverseRecOn with
  | nil => exact .nil
  | append_singleton part event ih =>
    have logged := ih fun other member => within other (List.mem_append_left _ member)
    have there : event ∈ declared := within event (by simp)
    have stepReports := (resolveAll_step source verify part event).2.2
    have stepNotices := Progress.notices_step source verify (resolveAll source verify part) event
      (fate_resolveAll source verify part event)
    rw [silent, List.append_nil] at stepNotices
    rw [resolveAll_concat, stepNotices, ← resolveAll_concat, stepReports, List.filter_append]
    exact List.rel_append logged (Fate.logs_reports there verify _ _)

theorem logsReports_of_lines {build : Build} {declared : List DeclaredEvent}
    {lines : List Notice} {reports : List Diagnostic}
    (logged : List.Forall₂ (Notice.Logs declared) lines reports)
    (notices : build.notices = lines ++
      [.tableBuilt build.table.size declared.length build.diagnostics.length]) :
    build.LogsReports declared reports where
  lines := ⟨lines, logged, notices⟩
  levels := by
    rw [notices, List.map_append, Notice.map_level_of_logs logged]
    rfl

/-- Reports are all logged exactly if those left out are none. -/
theorem logsReports_iff {build : Build} {declared : List DeclaredEvent} {left : Diagnostic → Bool}
    (logs : build.LogsReports declared (build.diagnostics.filter (!left ·))) :
    build.LogsReports declared build.diagnostics ↔
      ∀ report ∈ build.diagnostics, left report = false := by
  constructor
  · intro all
    have levels := congrArg List.length (logs.levels.symm.trans all.levels)
    simp only [List.length_append, List.length_map, Nat.add_right_cancel_iff] at levels
    simpa using List.length_filter_eq_length_iff.mp levels
  · intro noneLeft
    have same : build.diagnostics.filter (!left ·) = build.diagnostics :=
      List.filter_eq_self.mpr (by simpa using noneLeft)
    rwa [same] at logs

/-- The build of a catalogue without a defect from a store logs every report but those of fields
that end too late, and so it logs all of them exactly if there is no such field. -/
theorem run_logsReports (store : FormatStore) (declared : List DeclaredEvent)
    (clean : Catalogue.defect? declared = none) (verify : Bool) :
    ∃ build, run store.source declared verify = .ok build ∧
      build.LogsReports declared (build.diagnostics.filter (!·.isFieldTooLong)) ∧
      (build.LogsReports declared build.diagnostics ↔
        ∀ report ∈ build.diagnostics, report.isFieldTooLong = false) := by
  have sound := Catalogue.defect?_eq_none_iff.mp clean
  have logged := logs_resolveAll store.source (fun _ _ => rfl) verify
    (fun event (member : event ∈ declared) => member)
  have counted : (ofProgress declared.length (resolveAll store.source verify declared)).table.size =
      (resolveAll store.source verify declared).published.length := by
    rw [size_ofProgress store.source verify sound, published_resolveAll store.source verify sound]
  have logs : (ofProgress declared.length (resolveAll store.source verify declared)).LogsReports
      declared ((resolveAll store.source verify declared).diagnostics.filter
        (!·.isFieldTooLong)) :=
    logsReports_of_lines logged (by rw [counted]; rfl)
  exact ⟨_, run_eq_ok store.source verify clean, logs, logsReports_iff logs⟩

/-- The events of two samples together. Both have an event of id nine. -/
def loggedEvents : List DeclaredEvent := wakeupEvent :: headerEvents

def loggedTexts : FormatStore := ⟨wakeupTexts.entries ++ headerTexts.entries⟩

/-- Eight reports have seven notices. -/
theorem run_logsReports_sample :
    Catalogue.defect? loggedEvents = none ∧
    ∃ build, run loggedTexts.source loggedEvents true = .ok build ∧
      build.LogsReports loggedEvents (build.diagnostics.filter (!·.isFieldTooLong)) ∧
      ¬ build.LogsReports loggedEvents build.diagnostics ∧
      build.diagnostics.map (·.level) =
        [.debug, .debug, .debug, .warn, .warn, .warn, .warn, .warn] ∧
      build.notices.map (·.level) =
        [.debug, .debug, .warn, .warn, .warn, .warn, .warn, .info] := by
  obtain ⟨build, made, logs, all⟩ := run_logsReports loggedTexts loggedEvents (by decide) true
  have seen := check_of_run (fun build =>
    build.diagnostics.any (·.isFieldTooLong) &&
    build.diagnostics.map (·.level) =
      [.debug, .debug, .debug, .warn, .warn, .warn, .warn, .warn] &&
    build.notices.map (·.level) =
      [.debug, .debug, .warn, .warn, .warn, .warn, .warn, .info]) made (by decide +kernel)
  simp only [Bool.and_eq_true, decide_eq_true_eq, List.any_eq_true] at seen
  obtain ⟨⟨⟨report, there, long⟩, reports⟩, notices⟩ := seen
  refine ⟨by decide, build, made, logs, ?_, reports, notices⟩
  intro whole
  rw [all.mp whole report there] at long
  contradiction

/-- A field that ends too late is dropped without a word in the log. -/
theorem unlogged_fieldTooLong :
    Catalogue.defect? [wakeupEvent] = none ∧
    ∃ build, run wakeupTexts.source [wakeupEvent] true = .ok build ∧
      build.diagnostics.map (·.level) = [.debug, .debug, .debug] ∧
      build.notices.map (·.level) = [.debug, .debug, .info] ∧
      ¬ build.LogsReports [wakeupEvent] build.diagnostics := by
  have clean : Catalogue.defect? [wakeupEvent] = none := by decide
  have made := run_eq_ok wakeupTexts.source true clean
  have seen := check_of_run (fun build =>
    build.diagnostics.map (·.level) = [.debug, .debug, .debug] &&
    build.notices.map (·.level) = [.debug, .debug, .info]) made (by decide +kernel)
  simp only [Bool.and_eq_true, decide_eq_true_eq] at seen
  obtain ⟨reports, notices⟩ := seen
  refine ⟨clean, _, made, reports, notices, ?_⟩
  intro logs
  have levels := logs.levels
  rw [reports, notices] at levels
  exact absurd levels (by decide)

end Build

end TraceLayout
