import TraceLayout.Proofs.Layout.DenseIndex

/-! Every declared event is accounted for: it is in the table, or one report says why it is not. The
reason depends on the event's own text and on those of the events declared before it. -/
namespace TraceLayout

namespace FormatSource

/-- The text that a source has for an event, where an empty one counts as none. -/
def Answers (source : FormatSource) (event : DeclaredEvent) (text : String) : Prop :=
  (source event.group event.name).text? = some text ∧ text ≠ ""

def ParsesTo (source : FormatSource) (event : DeclaredEvent) (id : UInt32) : Prop :=
  ∃ text format, source.Answers event text ∧ KernelFormat.parse text = .ok format ∧ format.id = id

/-- The text that a source has for an event parses to a format. -/
def Reads (source : FormatSource) (event : DeclaredEvent) (format : KernelFormat) : Prop :=
  ∃ text, source.Answers event text ∧ KernelFormat.parse text = .ok format

/-- What becomes of an event that is declared after others, said of texts alone. -/
inductive Decides (source : FormatSource) (before : List DeclaredEvent) (event : DeclaredEvent) :
    Fate → Prop
  | unavailable : (source event.group event.name).text? = none ∨
      (source event.group event.name).text? = some "" → Decides source before event .unavailable
  | unparsable : source.Answers event text → KernelFormat.parse text = .error error →
      Decides source before event (.unparsable error)
  | idTaken : source.Answers event text → KernelFormat.parse text = .ok format →
      before = earlier ++ first :: later → source.ParsesTo first format.id →
      (∀ other ∈ earlier, ¬ source.ParsesTo other format.id) →
      Decides source before event (.idTaken format.id first.name)
  | resolved : source.Answers event text → KernelFormat.parse text = .ok format →
      (∀ other ∈ before, ¬ source.ParsesTo other format.id) →
      Decides source before event (.resolved format)

variable {source : FormatSource} {before : List DeclaredEvent} {event : DeclaredEvent}

theorem parsed?_of_answers {text : String} (answers : source.Answers event text) :
    source.parsed? event = some (KernelFormat.parse text) := by
  obtain ⟨given, written⟩ := answers
  simp [parsed?, given, Option.filter, written]

theorem parsed?_eq_none_iff :
    source.parsed? event = none ↔ (source event.group event.name).text? = none ∨
      (source event.group event.name).text? = some "" := by
  rw [parsed?, Option.map_eq_none_iff, Option.filter_eq_none_iff]
  cases (source event.group event.name).text? with
  | none => simp
  | some text => simp

theorem parsesTo_iff {id : UInt32} :
    source.ParsesTo event id ↔ (source.format? event).any (·.id == id) = true := by
  constructor
  · rintro ⟨text, format, answers, parsed, rfl⟩
    simp [format?, parsed?_of_answers answers, parsed, Except.toOption]
  · intro parses
    cases read : source.format? event with
    | none => simp [read] at parses
    | some format =>
      obtain ⟨text, given, written, parsed⟩ := parse_of_format? read
      exact ⟨text, format, ⟨given, written⟩, parsed, by simpa [read] using parses⟩

theorem reads_iff {format : KernelFormat} :
    source.Reads event format ↔ source.format? event = some format := by
  constructor
  · rintro ⟨text, answers, parsed⟩
    simp [format?, parsed?_of_answers answers, parsed, Except.toOption]
  · intro read
    obtain ⟨text, given, written, parsed⟩ := parse_of_format? read
    exact ⟨text, ⟨given, written⟩, parsed⟩

theorem claimant?_eq_some_iff {id : UInt32} {first : DeclaredEvent} :
    source.claimant? before id = some first ↔ source.ParsesTo first id ∧
      ∃ earlier later, before = earlier ++ first :: later ∧
        ∀ other ∈ earlier, ¬ source.ParsesTo other id := by
  simp only [parsesTo_iff, claimant?, List.find?_eq_some_iff_append]
  simp

theorem claimant?_eq_none_iff {id : UInt32} :
    source.claimant? before id = none ↔ ∀ other ∈ before, ¬ source.ParsesTo other id := by
  simp only [parsesTo_iff, claimant?, List.find?_eq_none]

/-- Exactly one thing becomes of an event. -/
theorem decides_iff {fate : Fate} :
    source.Decides before event fate ↔ fate = source.fate before event := by
  constructor
  · intro decided
    unfold FormatSource.fate
    cases decided with
    | unavailable absent => rw [parsed?_eq_none_iff.mpr absent, Fate.ofParsed]
    | unparsable answers failed => rw [parsed?_of_answers answers, failed, Fate.ofParsed]
    | idTaken answers parsed split claims first =>
      have claimant := claimant?_eq_some_iff.mpr ⟨claims, _, _, split, first⟩
      simp [parsed?_of_answers answers, parsed, Fate.ofParsed, claimant]
    | resolved answers parsed free =>
      have claimant := claimant?_eq_none_iff.mpr free
      simp [parsed?_of_answers answers, parsed, Fate.ofParsed, claimant]
  · rintro rfl
    cases answer : (source event.group event.name).text? with
    | none =>
      have absent := parsed?_eq_none_iff.mpr (.inl answer)
      rw [FormatSource.fate, absent]
      exact .unavailable (.inl answer)
    | some text =>
      by_cases empty : text = ""
      · subst empty
        have absent := parsed?_eq_none_iff.mpr (.inr answer)
        rw [FormatSource.fate, absent]
        exact .unavailable (.inr answer)
      · have answers : source.Answers event text := ⟨answer, empty⟩
        rw [FormatSource.fate, parsed?_of_answers answers]
        cases parsed : KernelFormat.parse text with
        | error error => exact .unparsable answers parsed
        | ok format =>
          cases claimant : source.claimant? before format.id with
          | none =>
            simp only [Fate.ofParsed, claimant, Option.map_none]
            exact .resolved answers parsed (claimant?_eq_none_iff.mp claimant)
          | some first =>
            obtain ⟨claims, earlier, later, split, earliest⟩ := claimant?_eq_some_iff.mp claimant
            simp only [Fate.ofParsed, claimant, Option.map_some]
            exact .idTaken answers parsed split claims earliest

end FormatSource

namespace Build

def reportsOf (build : Build) (name : String) : List Diagnostic :=
  build.diagnostics.filter (·.event == name)

def Lacks (build : Build) (name : String) : Prop :=
  build.table.getName? name = none ∧ ∀ entry ∈ build.table.events, entry.name ≠ name

/-- What a build shows of a declared event, by what has become of it. -/
def Shows (build : Build) (event : DeclaredEvent) : Fate → Prop
  | .unavailable =>
    build.reportsOf event.name = [.unavailable event.group event.name] ∧ build.Lacks event.name
  | .unparsable error =>
    build.reportsOf event.name = [.unparsable event.group event.name error] ∧
      build.Lacks event.name
  | .idTaken id existing =>
    build.reportsOf event.name = [.idTaken event.name id existing] ∧ build.Lacks event.name ∧
      ∃ holder, build.table.getId? id = some holder ∧ holder.name = existing
  | .resolved format =>
    (∃ entry, build.table.getName? event.name = some entry ∧ entry.name = event.name ∧
      entry.group = event.group ∧ entry.number = event.number ∧ entry.id = format.id) ∧
      ∀ report ∈ build.reportsOf event.name, report.dropsEvent = false

variable (source : FormatSource) (verify : Bool)

section Sound
variable {declared : List DeclaredEvent} (sound : Catalogue.IsSound declared)
include sound

/-- An id in the table belongs to the earliest declared event that parses to it. -/
theorem holder_ofProgress {id : UInt32} {first : DeclaredEvent}
    (claims : source.claimant? declared id = some first) :
    ∃ holder, (ofProgress declared.length (resolveAll source verify declared)).table.getId? id =
      some holder ∧ holder.name = first.name := by
  have held := congrFun (claimant?_resolveAll source verify declared) id
  rw [claims, Progress.claimant?, Option.map_some, Option.map_eq_some_iff] at held
  obtain ⟨holder, found, same⟩ := held
  exact ⟨holder, (getId?_ofProgress source verify sound id).trans found, same⟩

theorem lacks_ofProgress {name : String}
    (absent : (resolveAll source verify declared).events.find? (·.name == name) = none) :
    (ofProgress declared.length (resolveAll source verify declared)).Lacks name := by
  refine ⟨by rw [getName?_ofProgress source verify sound, absent], ?_⟩
  intro entry member same
  rw [mem_events_ofProgress source verify sound] at member
  exact List.find?_eq_none.mp absent entry member (by simpa using same)

end Sound

theorem shows_ofProgress {before after : List DeclaredEvent} {event : DeclaredEvent}
    (sound : Catalogue.IsSound (before ++ event :: after)) :
    (ofProgress (before ++ event :: after).length
      (resolveAll source verify (before ++ event :: after))).Shows event
        (source.fate before event) := by
  have entry := find?_resolveAll source verify sound.distinct
  have reports := filter_resolveAll source verify sound.distinct
  cases fate : source.fate before event with
  | unavailable =>
    rw [fate] at entry reports
    exact ⟨reports, lacks_ofProgress source verify sound entry⟩
  | unparsable error =>
    rw [fate] at entry reports
    exact ⟨reports, lacks_ofProgress source verify sound entry⟩
  | idTaken id existing =>
    have decided := FormatSource.decides_iff.mpr fate.symm
    rw [fate] at entry reports
    refine ⟨reports, lacks_ofProgress source verify sound entry, ?_⟩
    cases decided with
    | @idTaken _ _ earlier _ later answers parsed split claims earliest =>
      apply holder_ofProgress source verify sound
      refine FormatSource.claimant?_eq_some_iff.mpr
        ⟨claims, earlier, later ++ event :: after, ?_, earliest⟩
      rw [split, List.append_assoc, List.cons_append]
  | resolved format =>
    rw [fate] at entry reports
    constructor
    · refine ⟨_, (getName?_ofProgress source verify sound _).trans entry, ?_⟩
      exact ⟨rfl, rfl, rfl, rfl⟩
    · intro report member
      rw [reportsOf, ofProgress, reports] at member
      exact (Fate.mem_reports_resolved member).2

/-- A catalogue without a defect builds, exactly one thing becomes of each declared event, and the
table and the reports show it. Nothing that resolved is left out of the table. -/
theorem run_accounts (declared : List DeclaredEvent)
    (clean : Catalogue.defect? declared = none) :
    ∃ build, run source declared verify = .ok build ∧
      (∀ before event after, declared = before ++ event :: after →
        ∃ fate, (∀ other, source.Decides before event other ↔ other = fate) ∧
          build.Shows event fate) ∧
      (resolveAll source verify declared).published = (resolveAll source verify declared).events ∧
      build.table.size + build.diagnostics.countP (·.dropsEvent) = declared.length := by
  have sound := Catalogue.defect?_eq_none_iff.mp clean
  have published := published_resolveAll source verify sound
  refine ⟨_, run_eq_ok source verify clean, ?_, published, ?_⟩
  · rintro before event after rfl
    exact ⟨_, fun _ => FormatSource.decides_iff, shows_ofProgress source verify sound⟩
  · rw [ofProgress, published, (indexable_resolveAll source verify sound).size_eq]
    exact length_resolveAll source verify declared

/-- The third event repeats the id of the first. -/
theorem run_accounts_sample :
    Catalogue.defect? sampleEvents = none ∧
    sampleEvents = sampleEvents.take 2 ++ ⟨"ipi_entry", "ipi", 21, []⟩ :: sampleEvents.drop 3 ∧
    ∃ build, run sampleTexts.source sampleEvents true = .ok build ∧
      build.Shows ⟨"ipi_entry", "ipi", 21, []⟩ (.idTaken 9 "sched_blocked_reason") ∧
      build.table.size + build.diagnostics.countP (·.dropsEvent) = 4 := by
  obtain ⟨build, made, each, -, count⟩ :=
    run_accounts sampleTexts.source true sampleEvents (by decide)
  obtain ⟨fate, only, shown⟩ := each (sampleEvents.take 2) _ (sampleEvents.drop 3) rfl
  have own : sampleTexts.source.fate (sampleEvents.take 2) ⟨"ipi_entry", "ipi", 21, []⟩ =
      .idTaken 9 "sched_blocked_reason" := by decide +kernel
  have decided := (only _).mp (FormatSource.decides_iff.mpr own.symm)
  exact ⟨by decide, rfl, build, made, decided ▸ shown, count⟩

end Build

end TraceLayout
