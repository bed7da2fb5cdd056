import Mathlib.Data.List.Pairwise
import TraceLayout.Proofs.Layout.Accounting
import TraceLayout.Proofs.Settings.Filters

/-! Building some of the declared events, in any order, gives what building all of them gives for
those. This takes a kernel whose formats do not disagree: otherwise an id that is taken and the
header of the first event reach from one event to another. -/
namespace TraceLayout

namespace FormatSource
variable {source : FormatSource}

/-- Two events whose formats, if they both have one, have different ids and the same header. -/
def Agree (source : FormatSource) (event other : DeclaredEvent) : Prop :=
  ∀ format otherFormat, source.Reads event format → source.Reads other otherFormat →
    format.id ≠ otherFormat.id ∧ format.headerSpans = otherFormat.headerSpans

theorem agree_iff {event other : DeclaredEvent} :
    source.Agree event other ↔
      ∀ format ∈ source.format? event, ∀ otherFormat ∈ source.format? other,
        format.id ≠ otherFormat.id ∧ format.headerSpans = otherFormat.headerSpans := by
  simp only [Agree, reads_iff, Option.mem_def]
  exact ⟨fun agree format read other otherRead => agree format other read otherRead,
    fun agree format other read otherRead => agree format read other otherRead⟩

instance (event other : DeclaredEvent) : Decidable (source.Agree event other) :=
  decidable_of_iff _ agree_iff.symm

theorem Agree.symm {event other : DeclaredEvent} (agree : source.Agree event other) :
    source.Agree other event := by
  intro format otherFormat read otherRead
  obtain ⟨ids, headers⟩ := agree otherFormat format otherRead read
  exact ⟨ids.symm, headers.symm⟩

/-- The entry of an event that is built alone, if it has one. -/
def ownLayout? (source : FormatSource) (event : DeclaredEvent) : Option EventLayout :=
  (source.fate [] event).layout? event none

/-- The reports of an event that is built alone. -/
def ownReports (source : FormatSource) (verify : Bool) (event : DeclaredEvent) : List Diagnostic :=
  (source.fate [] event).reports verify event none

theorem name_of_ownLayout? {event : DeclaredEvent} {entry : EventLayout}
    (made : source.ownLayout? event = some entry) : entry.name = event.name :=
  Fate.name_of_layout? made

section Before
variable {before : List DeclaredEvent} {event : DeclaredEvent}
  (agree : ∀ other ∈ before, source.Agree other event)
include agree

/-- Events that agree with a later one leave its id to it. -/
theorem claimant?_eq_none_of_agree {format : KernelFormat} (read : source.Reads event format) :
    source.claimant? before format.id = none := by
  apply claimant?_eq_none_iff.mpr
  rintro other member ⟨text, taken, answers, parsed, same⟩
  exact (agree other member taken format ⟨text, answers, parsed⟩ read).1 same

theorem fate_eq_of_agree : source.fate before event = source.fate [] event := by
  unfold fate
  cases own : source.parsed? event with
  | none => rfl
  | some outcome =>
    cases outcome with
    | error error => rfl
    | ok format =>
      have read : source.Reads event format := by
        rw [reads_iff, format?, own]
        rfl
      have free := claimant?_eq_none_of_agree agree read
      simp only [Fate.ofParsed, free]
      rfl

/-- Events that agree with a later one share its header. -/
theorem header_eq_of_agree (verify : Bool) {format : KernelFormat}
    (read : source.Reads event format) :
    (Build.resolveAll source verify before).header?.getD format.headerSpans =
      format.headerSpans := by
  rw [Build.header?_resolveAll]
  cases found : before.findSome? source.format? with
  | none => rfl
  | some first =>
    obtain ⟨other, member, otherRead⟩ := List.exists_of_findSome?_eq_some found
    exact (agree other member first format (reads_iff.mpr otherRead) read).2

/-- What an event adds to a build does not depend on earlier ones that agree with it. -/
theorem adds_eq_of_agree (verify : Bool) :
    (source.fate before event).layout? event (Build.resolveAll source verify before).header? =
        source.ownLayout? event ∧
      (source.fate before event).reports verify event
        (Build.resolveAll source verify before).header? = source.ownReports verify event := by
  rw [ownLayout?, ownReports, ← fate_eq_of_agree agree]
  cases fate : source.fate before event with
  | unavailable | unparsable _ | idTaken _ _ => exact ⟨rfl, rfl⟩
  | resolved format =>
    have read := reads_iff.mpr (format?_of_resolved fate)
    have header := header_eq_of_agree agree verify read
    rw [Fate.layout?, Fate.layout?, Fate.reports, Fate.reports, header]
    exact ⟨rfl, rfl⟩

end Before

end FormatSource

namespace Build
variable (source : FormatSource) (verify : Bool)

/-- A build of events that agree puts together what each of them gives alone. -/
theorem resolveAll_eq_of_agree {declared : List DeclaredEvent}
    (agree : declared.Pairwise source.Agree) :
    (resolveAll source verify declared).events = declared.filterMap source.ownLayout? ∧
      (resolveAll source verify declared).diagnostics =
        declared.flatMap (source.ownReports verify) := by
  -- From the last event, since what an event meets is the build of those before it.
  induction declared using List.reverseRecOn with
  | nil => exact ⟨rfl, rfl⟩
  | append_singleton declared event ih =>
    obtain ⟨agreeBefore, -, agreeLast⟩ := List.pairwise_append.mp agree
    obtain ⟨events, reports⟩ := ih agreeBefore
    obtain ⟨stepEvents, -, stepReports⟩ := resolveAll_step source verify declared event
    have agreeEvent : ∀ other ∈ declared, source.Agree other event :=
      fun other member => agreeLast other member event (List.mem_singleton_self event)
    obtain ⟨entry, own⟩ := FormatSource.adds_eq_of_agree agreeEvent verify
    rw [stepEvents, stepReports, entry, own, events, reports, List.filterMap_append,
      List.flatMap_append]
    constructor
    · cases made : source.ownLayout? event <;> simp [made]
    · simp

/-- Events without a format set no header, and all others among events that agree set the same. -/
theorem header?_eq_of_subset {chosen declared : List DeclaredEvent} (within : chosen ⊆ declared)
    (agree : declared.Pairwise source.Agree) :
    (resolveAll source verify chosen).header? = none ∨
      (resolveAll source verify chosen).header? = (resolveAll source verify declared).header? := by
  rw [header?_resolveAll, header?_resolveAll]
  cases found : chosen.findSome? source.format? with
  | none => exact .inl rfl
  | some format =>
    obtain ⟨event, member, read⟩ := List.exists_of_findSome?_eq_some found
    have readable : (declared.findSome? source.format?).isSome = true :=
      List.findSome?_isSome_iff.mpr ⟨event, within member, by rw [read]; rfl⟩
    obtain ⟨first, foundFirst⟩ := Option.isSome_iff_exists.mp readable
    obtain ⟨other, there, otherRead⟩ := List.exists_of_findSome?_eq_some foundFirst
    rw [foundFirst]
    -- The two builds need not read the same event first, so it is agreement that ties the headers.
    by_cases same : event = other
    · rw [same, otherRead] at read
      rw [read]
      exact .inr rfl
    · have symmetric : Std.Symm source.Agree := ⟨fun _ _ agree => agree.symm⟩
      have apart := agree.forall (within member) there same
      have headers := (apart format first (FormatSource.reads_iff.mpr read)
        (FormatSource.reads_iff.mpr otherRead)).2
      exact .inr (congrArg some headers)

end Build

section Chosen
variable {source : FormatSource} {chosen declared : List DeclaredEvent}
  (part : chosen.Subperm declared)
include part

theorem FormatSource.agree_of_subperm (agree : declared.Pairwise source.Agree) :
    chosen.Pairwise source.Agree := by
  obtain ⟨kept, perm, sublist⟩ := part
  exact perm.pairwise (agree.sublist sublist) Agree.symm

variable (distinct : (declared.map (·.name)).Nodup)
include distinct

/-- The chosen events are known by their names. -/
theorem mem_chosen_iff {event : DeclaredEvent} :
    event ∈ chosen ↔ event ∈ declared ∧ event.name ∈ chosen.map (·.name) := by
  constructor
  · intro member
    exact ⟨part.subset member, List.mem_map_of_mem member⟩
  · rintro ⟨there, named⟩
    obtain ⟨other, member, same⟩ := List.mem_map.mp named
    rw [← List.inj_on_of_nodup_map distinct (part.subset member) there same]
    exact member

theorem chosen_perm_filter :
    chosen.Perm (declared.filter fun event => event.name ∈ chosen.map (·.name)) := by
  obtain ⟨kept, perm, sublist⟩ := id part
  have nodup : chosen.Nodup := perm.nodup_iff.mp (distinct.of_map.sublist sublist)
  apply (List.perm_ext_iff_of_nodup nodup (distinct.of_map.filter _)).mpr
  intro event
  rw [mem_chosen_iff part distinct, List.mem_filter, decide_eq_true_eq]

theorem mem_filterMap_ownLayout?_iff {entry : EventLayout} :
    entry ∈ chosen.filterMap source.ownLayout? ↔
      entry ∈ declared.filterMap source.ownLayout? ∧ entry.name ∈ chosen.map (·.name) := by
  simp only [List.mem_filterMap]
  constructor
  · rintro ⟨event, member, made⟩
    rw [FormatSource.name_of_ownLayout? made]
    exact ⟨⟨event, part.subset member, made⟩, List.mem_map_of_mem member⟩
  · rintro ⟨⟨event, there, made⟩, named⟩
    rw [FormatSource.name_of_ownLayout? made] at named
    exact ⟨event, (mem_chosen_iff part distinct).mpr ⟨there, named⟩, made⟩

end Chosen

theorem FormatSource.filter_flatMap_ownReports (source : FormatSource) (verify : Bool)
    (names : List String) (declared : List DeclaredEvent) :
    (declared.flatMap (source.ownReports verify)).filter (·.event ∈ names) =
      (declared.filter (·.name ∈ names)).flatMap (source.ownReports verify) := by
  induction declared with
  | nil => rfl
  | cons event declared ih =>
    rw [List.flatMap_cons, List.filter_append, ih]
    by_cases named : event.name ∈ names
    · have kept : (source.ownReports verify event).filter (·.event ∈ names) =
          source.ownReports verify event := by
        apply List.filter_eq_self.mpr
        intro report member
        simpa [Fate.event_of_mem_reports member] using named
      rw [kept, List.filter_cons_of_pos (by simpa using named), List.flatMap_cons]
    · have dropped : (source.ownReports verify event).filter (·.event ∈ names) = [] := by
        apply List.filter_eq_nil_iff.mpr
        intro report member
        simpa [Fate.event_of_mem_reports member] using named
      rw [dropped, List.filter_cons_of_neg (by simpa using named), List.nil_append]

namespace Build

/-- A build of some events gives what the build of all of them has of those. -/
structure Restricts (part whole : Build) (chosen : List DeclaredEvent) : Prop where
  byName : ∀ event ∈ chosen,
    part.table.getName? event.name = whole.table.getName? event.name
  byId : ∀ id, part.table.getId? id =
    (whole.table.getId? id).filter fun entry => entry.name ∈ chosen.map (·.name)
  header : part.table.events ≠ [] → part.table.header = whole.table.header
  diagnostics : part.diagnostics.Perm
    (whole.diagnostics.filter fun report => report.event ∈ chosen.map (·.name))

variable (source : FormatSource) (verify : Bool) {chosen declared : List DeclaredEvent}

theorem restricts_ofProgress (part : chosen.Subperm declared) (sound : Catalogue.IsSound declared)
    (agree : declared.Pairwise source.Agree) :
    (ofProgress chosen.length (resolveAll source verify chosen)).Restricts
      (ofProgress declared.length (resolveAll source verify declared)) chosen := by
  have soundChosen := sound.of_subperm part
  have fit := indexable_resolveAll source verify sound
  have fitChosen := indexable_resolveAll source verify soundChosen
  obtain ⟨events, reports⟩ := resolveAll_eq_of_agree source verify agree
  obtain ⟨eventsChosen, reportsChosen⟩ :=
    resolveAll_eq_of_agree source verify (FormatSource.agree_of_subperm part agree)
  have mem_iff : ∀ entry, entry ∈ (resolveAll source verify chosen).events ↔
      entry ∈ (resolveAll source verify declared).events ∧ entry.name ∈ chosen.map (·.name) := by
    intro entry
    rw [events, eventsChosen, mem_filterMap_ownLayout?_iff part sound.distinct]
  constructor
  case byName =>
    intro event member
    apply Option.ext
    intro entry
    rw [getName?_ofProgress source verify sound, getName?_ofProgress source verify soundChosen,
      Indexable.find?_eq_some_iff fit.names, Indexable.find?_eq_some_iff fitChosen.names, mem_iff]
    constructor
    · rintro ⟨⟨there, -⟩, same⟩
      exact ⟨there, same⟩
    · rintro ⟨there, same⟩
      exact ⟨⟨there, same ▸ List.mem_map_of_mem member⟩, same⟩
  case byId =>
    intro id
    apply Option.ext
    intro entry
    rw [getId?_ofProgress source verify sound, getId?_ofProgress source verify soundChosen,
      Option.filter_eq_some_iff, Indexable.find?_eq_some_iff fit.ids,
      Indexable.find?_eq_some_iff fitChosen.ids, mem_iff, decide_eq_true_eq]
    exact and_right_comm
  case header =>
    intro filled
    obtain ⟨entry, present⟩ := List.exists_mem_of_ne_nil _ filled
    have member := (mem_events_ofProgress source verify soundChosen).mp present
    have captured := header_ofProgress source verify soundChosen member
    have capturedWhole := header_ofProgress source verify sound ((mem_iff entry).mp member).1
    rcases header?_eq_of_subset source verify part.subset agree with unset | same
    · rw [captured] at unset
      contradiction
    · exact Option.some.inj (captured.symm.trans (same.trans capturedWhole))
  case diagnostics =>
    have perm := (chosen_perm_filter part sound.distinct).flatMap_right (source.ownReports verify)
    rw [← FormatSource.filter_flatMap_ownReports, ← reports, ← reportsChosen] at perm
    exact perm

theorem table_eq_of_perm (perm : chosen.Perm declared) (sound : Catalogue.IsSound declared)
    (agree : declared.Pairwise source.Agree) :
    (ofProgress chosen.length (resolveAll source verify chosen)).table =
      (ofProgress declared.length (resolveAll source verify declared)).table := by
  have soundChosen := sound.of_subperm perm.subperm
  have fitChosen := indexable_resolveAll source verify soundChosen
  have agreeChosen := FormatSource.agree_of_subperm perm.subperm agree
  have events : (resolveAll source verify chosen).events.Perm
      (resolveAll source verify declared).events := by
    rw [(resolveAll_eq_of_agree source verify agree).1,
      (resolveAll_eq_of_agree source verify agreeChosen).1]
    exact perm.filterMap source.ownLayout?
  have header : (resolveAll source verify chosen).header? =
      (resolveAll source verify declared).header? := by
    rcases header?_eq_of_subset source verify perm.subset agree with unset | same
    · rcases header?_eq_of_subset source verify perm.symm.subset agreeChosen with alsoUnset | same
      · rw [unset, alsoUnset]
      · exact same.symm
    · exact same
  rw [table_ofProgress source verify sound, table_ofProgress source verify soundChosen, header]
  exact fitChosen.ofEvents_perm events _

/-- Where the formats of a catalogue agree, building commutes with leaving events out and with
putting them in another order. -/
theorem run_restricts (declared : List DeclaredEvent) (clean : Catalogue.defect? declared = none)
    (agree : declared.Pairwise source.Agree) :
    ∃ whole, run source declared verify = .ok whole ∧
      (∀ chosen, chosen.Subperm declared → ∃ part, run source chosen verify = .ok part ∧
        part.Restricts whole chosen ∧ (chosen.Perm declared → part.table = whole.table)) ∧
      ∀ settings : Settings, ∃ part, run source (settings.select declared) verify = .ok part ∧
        part.Restricts whole (settings.select declared) := by
  have sound := Catalogue.defect?_eq_none_iff.mp clean
  have builds : ∀ chosen, chosen.Subperm declared → run source chosen verify =
      .ok (ofProgress chosen.length (resolveAll source verify chosen)) := by
    intro chosen part
    exact run_eq_ok source verify (Catalogue.defect?_eq_none_iff.mpr (sound.of_subperm part))
  refine ⟨_, run_eq_ok source verify clean, ?_, ?_⟩
  · intro chosen part
    exact ⟨_, builds chosen part, restricts_ofProgress source verify part sound agree,
      fun perm => table_eq_of_perm source verify perm sound agree⟩
  · intro settings
    have part := settings.select_subperm declared
    exact ⟨_, builds _ part, restricts_ofProgress source verify part sound agree⟩

/-- Events whose formats agree. The last one has no text. -/
def agreeingEvents : List DeclaredEvent := sampleEvents.take 2 ++ sampleEvents.drop 3

/-- The last of the events and then the first. -/
def turnedEvents : List DeclaredEvent := sampleEvents.drop 3 ++ sampleEvents.take 1

theorem run_restricts_sample :
    Catalogue.defect? agreeingEvents = none ∧
    agreeingEvents.Pairwise sampleTexts.source.Agree ∧ turnedEvents.Subperm agreeingEvents ∧
    agreeingEvents.reverse.Perm agreeingEvents ∧
    ∃ whole part reversed, run sampleTexts.source agreeingEvents true = .ok whole ∧
      run sampleTexts.source turnedEvents true = .ok part ∧ part.Restricts whole turnedEvents ∧
      run sampleTexts.source agreeingEvents.reverse true = .ok reversed ∧
      reversed.table = whole.table ∧ whole.table.events.map (·.id) = [3, 9] ∧
      (part.table.getId? 9).isSome = true ∧ part.table.getId? 3 = none := by
  have agree : agreeingEvents.Pairwise sampleTexts.source.Agree := by decide +kernel
  have turned : turnedEvents.Subperm agreeingEvents := by decide
  have reversal := agreeingEvents.reverse_perm
  obtain ⟨whole, made, each, -⟩ :=
    run_restricts sampleTexts.source true agreeingEvents (by decide) agree
  obtain ⟨part, madePart, restricts, -⟩ := each turnedEvents turned
  obtain ⟨reversed, madeReversed, -, same⟩ := each agreeingEvents.reverse reversal.subperm
  have seen := check_of_run (fun whole => whole.table.events.map (·.id) = [3, 9] &&
    (whole.table.getId? 9).any (fun entry => entry.name ∈ turnedEvents.map (·.name)) &&
    (whole.table.getId? 3).all (fun entry => entry.name ∉ turnedEvents.map (·.name))) made
    (by decide +kernel)
  simp only [Bool.and_eq_true, decide_eq_true_eq] at seen
  obtain ⟨⟨ids, nine⟩, three⟩ := seen
  refine ⟨by decide, agree, turned, reversal, whole, part, reversed, made, madePart, restricts,
    madeReversed, same reversal, ids, ?_, ?_⟩
  · obtain ⟨entry, held, named⟩ := (Option.any_eq_true _ _).mp nine
    rw [restricts.byId, held, Option.filter_some, if_pos named]
    rfl
  · rw [restricts.byId, Option.filter_eq_none_iff]
    intro entry held named
    have unnamed := (Option.all_eq_true _ _).mp three entry held
    exact absurd (of_decide_eq_true named) (of_decide_eq_true unnamed)

end Build

end TraceLayout
