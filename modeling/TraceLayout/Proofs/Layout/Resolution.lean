import Mathlib.Data.List.Induction
import TraceLayout.Layout.Build

/-! What becomes of each declared event. A step of a build appends what the fate of its event says,
and the fate depends on the declarations before the event alone. -/
namespace TraceLayout

/-- What becomes of a declared event. -/
inductive Fate
  | unavailable
  | unparsable (error : FormatError)
  | idTaken (id : UInt32) (existing : String)
  | resolved (format : KernelFormat)
  deriving DecidableEq, Repr

namespace Fate

/-- The fate of an event whose text parses to this, given who has claimed an id. -/
def ofParsed (claimant? : UInt32 → Option String) :
    Option (Except FormatError KernelFormat) → Fate
  | none => .unavailable
  | some (.error error) => .unparsable error
  | some (.ok format) =>
    match claimant? format.id with
    | some existing => .idTaken format.id existing
    | none => .resolved format

def layout? (event : DeclaredEvent) (shared? : Option (List ByteSpan)) : Fate → Option EventLayout
  | .resolved format => some (Progress.layout event format (shared?.getD format.headerSpans))
  | .unavailable | .unparsable _ | .idTaken _ _ => none

def header? : Fate → Option (List ByteSpan)
  | .resolved format => some format.headerSpans
  | .unavailable | .unparsable _ | .idTaken _ _ => none

/-- What is reported of the event. -/
def reports (verify : Bool) (event : DeclaredEvent) (shared? : Option (List ByteSpan)) :
    Fate → List Diagnostic
  | .unavailable => [.unavailable event.group event.name]
  | .unparsable error => [.unparsable event.group event.name error]
  | .idTaken id existing => [.idTaken event.name id existing]
  | .resolved format =>
    event.fields.filterMap (fun field =>
      (FieldOutcome.find format field).diagnostic? event.name field)
    ++ (if verify && shared?.getD format.headerSpans != format.headerSpans then
      [.headerDiffers event.name] else [])

variable {verify : Bool} {event : DeclaredEvent} {shared? : Option (List ByteSpan)} {fate : Fate}

theorem event_of_diagnostic? {field : DeclaredField} {outcome : FieldOutcome}
    {diagnostic : Diagnostic} (made : outcome.diagnostic? event.name field = some diagnostic) :
    diagnostic.event = event.name ∧ diagnostic.dropsEvent = false := by
  cases outcome with
  | kept _ => contradiction
  | missing | unsupported _ | tooLong _ =>
    obtain rfl := Option.some.inj made
    exact ⟨rfl, rfl⟩

/-- What is reported of an event that resolves leaves the event in the table. -/
theorem mem_reports_resolved {format : KernelFormat} {diagnostic : Diagnostic}
    (member : diagnostic ∈ reports verify event shared? (.resolved format)) :
    diagnostic.event = event.name ∧ diagnostic.dropsEvent = false := by
  rcases List.mem_append.mp member with ofField | ofHeader
  · obtain ⟨field, -, made⟩ := List.mem_filterMap.mp ofField
    exact event_of_diagnostic? made
  · split at ofHeader
    · obtain rfl := List.mem_singleton.mp ofHeader
      exact ⟨rfl, rfl⟩
    · contradiction

theorem event_of_mem_reports {diagnostic : Diagnostic}
    (member : diagnostic ∈ reports verify event shared? fate) : diagnostic.event = event.name := by
  cases fate with
  | unavailable | unparsable _ | idTaken _ _ =>
    obtain rfl := List.mem_singleton.mp member
    rfl
  | resolved format => exact (mem_reports_resolved member).1

theorem name_of_layout? {layout : EventLayout} (made : fate.layout? event shared? = some layout) :
    layout.name = event.name := by
  cases fate with
  | unavailable | unparsable _ | idTaken _ _ => contradiction
  | resolved format =>
    obtain rfl := Option.some.inj made
    rfl

theorem length_layout?_add_countP :
    (fate.layout? event shared?).toList.length +
      (reports verify event shared? fate).countP (·.dropsEvent) = 1 := by
  cases fate with
  | unavailable | unparsable _ | idTaken _ _ => rfl
  | resolved format =>
    have none_ : (reports verify event shared? (.resolved format)).countP (·.dropsEvent) = 0 := by
      apply List.countP_eq_zero.mpr
      intro diagnostic member
      simp [(mem_reports_resolved member).2]
    rw [none_]
    rfl

end Fate

namespace FormatSource

/-- What the text of an event parses to, if there is a text that is not empty. -/
def parsed? (source : FormatSource) (event : DeclaredEvent) :
    Option (Except FormatError KernelFormat) :=
  ((source event.group event.name).text?.filter (· != "")).map KernelFormat.parse

def format? (source : FormatSource) (event : DeclaredEvent) : Option KernelFormat :=
  (source.parsed? event).bind Except.toOption

/-- The earliest of some declared events whose text parses to an id. -/
def claimant? (source : FormatSource) (declared : List DeclaredEvent) (id : UInt32) :
    Option DeclaredEvent :=
  declared.find? fun event => (source.format? event).any (·.id == id)

def fate (source : FormatSource) (before : List DeclaredEvent) (event : DeclaredEvent) : Fate :=
  .ofParsed (fun id => (source.claimant? before id).map (·.name)) (source.parsed? event)

variable {source : FormatSource} {before : List DeclaredEvent} {event : DeclaredEvent}

theorem parse_of_format? {format : KernelFormat} (read : source.format? event = some format) :
    ∃ text, (source event.group event.name).text? = some text ∧ text ≠ "" ∧
      KernelFormat.parse text = .ok format := by
  obtain ⟨outcome, parsed, kept⟩ := Option.bind_eq_some_iff.mp read
  obtain ⟨text, answer, rfl⟩ := Option.map_eq_some_iff.mp parsed
  obtain ⟨given, written⟩ := Option.filter_eq_some_iff.mp answer
  refine ⟨text, given, by simpa using written, ?_⟩
  cases own : KernelFormat.parse text with
  | error error => simp [own, Except.toOption] at kept
  | ok other => simpa [own, Except.toOption] using kept

theorem mem_of_claimant? {id : UInt32} {first : DeclaredEvent}
    (claims : source.claimant? before id = some first) :
    first ∈ before ∧ ∃ format, source.format? first = some format ∧ format.id = id := by
  refine ⟨List.mem_of_find?_eq_some claims, ?_⟩
  rw [claimant?] at claims
  have parses := List.find?_some claims
  cases read : source.format? first with
  | none => simp [read] at parses
  | some format => exact ⟨format, rfl, by simpa [read] using parses⟩

theorem claimant?_concat (id : UInt32) :
    source.claimant? (before ++ [event]) id =
      (source.claimant? before id).or
        (if (source.format? event).any (·.id == id) then some event else none) := by
  rw [claimant?, List.find?_append, List.find?_singleton, claimant?]

/-- An event without a format has no entry, and one with a format has one unless the id of the
format is claimed. -/
theorem fate_cases (source : FormatSource) (before : List DeclaredEvent) (event : DeclaredEvent) :
    (source.format? event = none ∧ (source.fate before event).header? = none ∧
      ∀ shared?, (source.fate before event).layout? event shared? = none) ∨
    (∃ format first, source.format? event = some format ∧
      source.claimant? before format.id = some first ∧
      source.fate before event = .idTaken format.id first.name) ∨
    (∃ format, source.format? event = some format ∧
      source.claimant? before format.id = none ∧ source.fate before event = .resolved format) := by
  unfold format? fate
  cases source.parsed? event with
  | none => exact .inl ⟨rfl, rfl, fun _ => rfl⟩
  | some outcome =>
    cases outcome with
    | error error => exact .inl ⟨rfl, rfl, fun _ => rfl⟩
    | ok format =>
      cases claims : source.claimant? before format.id with
      | some first => exact .inr (.inl ⟨format, first, rfl, claims, by simp [Fate.ofParsed, claims]⟩)
      | none => exact .inr (.inr ⟨format, rfl, claims, by simp [Fate.ofParsed, claims]⟩)

theorem format?_of_resolved {format : KernelFormat}
    (resolved : source.fate before event = .resolved format) :
    source.format? event = some format := by
  rcases source.fate_cases before event with
    ⟨-, noHeader, -⟩ | ⟨other, first, -, -, taken⟩ | ⟨other, read, -, same⟩
  · rw [resolved] at noHeader
    contradiction
  · rw [resolved] at taken
    contradiction
  · rw [read, ← Fate.resolved.inj (resolved.symm.trans same)]

end FormatSource

namespace Progress

/-- The name of the event that has claimed an id. -/
def claimant? (seen : Progress) (id : UInt32) : Option String :=
  (seen.events.find? (·.id == id)).map (·.name)

/-- A step appends an entry and reports, and it sets the header if none is set. -/
theorem step_appends (source : FormatSource) (verify : Bool) (seen : Progress)
    (event : DeclaredEvent) {fate : Fate}
    (own : .ofParsed seen.claimant? (source.parsed? event) = fate) :
    (step source verify seen event).events =
        seen.events ++ (fate.layout? event seen.header?).toList ∧
      (step source verify seen event).header? = seen.header?.or fate.header? ∧
      (step source verify seen event).diagnostics =
        seen.diagnostics ++ fate.reports verify event seen.header? := by
  subst own
  unfold step FormatSource.parsed?
  cases answer : (source event.group event.name).text?.filter (· != "") with
  | none => simp [answer, report, Fate.ofParsed, Fate.layout?, Fate.header?, Fate.reports]
  | some text =>
    simp only [answer, Option.map_some]
    cases parsed : KernelFormat.parse text with
    | error error => simp [report, Fate.ofParsed, Fate.layout?, Fate.header?, Fate.reports]
    | ok format =>
      simp only [Fate.ofParsed, claimant?]
      cases taken : seen.events.find? (·.id == format.id) with
      | some existing => simp [report, Fate.layout?, Fate.header?, Fate.reports]
      | none =>
        simp only [Option.map_none, resolve, Fate.layout?, Fate.header?, Fate.reports]
        refine ⟨rfl, ?_, ?_⟩
        · cases seen.header? <;> rfl
        · rw [List.filterMap_map, List.append_assoc]
          rfl

end Progress

namespace Build
variable (source : FormatSource) (verify : Bool)

theorem resolveAll_concat (declared : List DeclaredEvent) (event : DeclaredEvent) :
    resolveAll source verify (declared ++ [event]) =
      Progress.step source verify (resolveAll source verify declared) event := by
  simp [resolveAll]

/-- Whoever has claimed an id in a build is the earliest declared event that parses to it. -/
theorem claimant?_resolveAll (declared : List DeclaredEvent) :
    (resolveAll source verify declared).claimant? =
      fun id => (source.claimant? declared id).map (·.name) := by
  induction declared using List.reverseRecOn with
  | nil => rfl
  | append_singleton declared event ih =>
    funext id
    have own : .ofParsed (resolveAll source verify declared).claimant? (source.parsed? event) =
        source.fate declared event := by rw [ih, FormatSource.fate]
    have ih := congrFun ih id
    rw [Progress.claimant?] at ih
    rw [resolveAll_concat, FormatSource.claimant?_concat, Progress.claimant?,
      (Progress.step_appends source verify _ event own).1, List.find?_append, Option.map_or, ih,
      Option.map_or]
    rcases source.fate_cases declared event with
      ⟨absent, -, noEntry⟩ | ⟨format, first, read, claims, taken⟩ | ⟨format, read, claims, resolved⟩
    · simp [absent, noEntry]
    · by_cases same : format.id = id
      · simp [← same, claims]
      · simp [taken, read, same, Fate.layout?]
    · by_cases same : format.id = id <;>
        simp [resolved, read, same, Fate.layout?, Progress.layout]

theorem fate_resolveAll (declared : List DeclaredEvent) (event : DeclaredEvent) :
    .ofParsed (resolveAll source verify declared).claimant? (source.parsed? event) =
      source.fate declared event := by
  rw [claimant?_resolveAll, FormatSource.fate]

theorem resolveAll_step (declared : List DeclaredEvent) (event : DeclaredEvent) :
    (resolveAll source verify (declared ++ [event])).events =
        (resolveAll source verify declared).events ++
          ((source.fate declared event).layout? event
            (resolveAll source verify declared).header?).toList ∧
      (resolveAll source verify (declared ++ [event])).header? =
        (resolveAll source verify declared).header?.or (source.fate declared event).header? ∧
      (resolveAll source verify (declared ++ [event])).diagnostics =
        (resolveAll source verify declared).diagnostics ++
          (source.fate declared event).reports verify event
            (resolveAll source verify declared).header? := by
  rw [resolveAll_concat]
  exact Progress.step_appends source verify _ event (fate_resolveAll source verify declared event)

/-- The shared header is that of the first declared event that has a format. -/
theorem header?_resolveAll (declared : List DeclaredEvent) :
    (resolveAll source verify declared).header? =
      (declared.findSome? source.format?).map (·.headerSpans) := by
  induction declared using List.reverseRecOn with
  | nil => rfl
  | append_singleton declared event ih =>
    rw [(resolveAll_step source verify declared event).2.1, ih, List.findSome?_append,
      Option.map_or]
    rcases source.fate_cases declared event with
      ⟨absent, noHeader, -⟩ | ⟨format, first, read, claims, taken⟩ | ⟨format, read, -, resolved⟩
    · simp [absent, noHeader]
    · obtain ⟨member, other, parses, -⟩ := FormatSource.mem_of_claimant? claims
      have some_ : (declared.findSome? source.format?).isSome = true :=
        List.findSome?_isSome_iff.mpr ⟨first, member, by simp [parses]⟩
      obtain ⟨shared, found⟩ := Option.isSome_iff_exists.mp some_
      simp [found]
    · simp [read, resolved, Fate.header?]

/-- Declared events that follow add entries and reports of their own and change nothing before. -/
theorem exists_resolveAll_append (front back : List DeclaredEvent) :
    ∃ entries reports,
      (resolveAll source verify (front ++ back)).events =
        (resolveAll source verify front).events ++ entries ∧
      (resolveAll source verify (front ++ back)).diagnostics =
        (resolveAll source verify front).diagnostics ++ reports ∧
      (entries.map (·.name)).Sublist (back.map (·.name)) ∧
      ∀ report ∈ reports, report.event ∈ back.map (·.name) := by
  induction back using List.reverseRecOn with
  | nil => exact ⟨[], [], by simp, by simp, by simp, by simp⟩
  | append_singleton back event ih =>
    obtain ⟨entries, reports, sameEvents, sameReports, names, owners⟩ := ih
    obtain ⟨stepEvents, -, stepReports⟩ := resolveAll_step source verify (front ++ back) event
    rw [← List.append_assoc, stepEvents, stepReports, sameEvents, sameReports]
    refine ⟨_, _, List.append_assoc _ _ _, List.append_assoc _ _ _, ?_, ?_⟩
    · rw [List.map_append, List.map_append]
      apply names.append
      cases made : (source.fate (front ++ back) event).layout? event
          (resolveAll source verify (front ++ back)).header? with
      | none => exact List.nil_sublist _
      | some layout => simp [Fate.name_of_layout? made]
    · intro report member
      rw [List.map_append, List.mem_append]
      rcases List.mem_append.mp member with earlier | own
      · exact .inl (owners report earlier)
      · exact .inr (by simp [Fate.event_of_mem_reports own])

theorem names_resolveAll (declared : List DeclaredEvent) :
    ((resolveAll source verify declared).events.map (·.name)).Sublist (declared.map (·.name)) := by
  obtain ⟨entries, -, same, -, names, -⟩ := exists_resolveAll_append source verify [] declared
  have same : (resolveAll source verify declared).events = entries := same
  exact same ▸ names

theorem owners_resolveAll (declared : List DeclaredEvent) :
    ∀ report ∈ (resolveAll source verify declared).diagnostics,
      report.event ∈ declared.map (·.name) := by
  obtain ⟨-, reports, -, same, -, owners⟩ := exists_resolveAll_append source verify [] declared
  have same : (resolveAll source verify declared).diagnostics = reports := same
  exact same ▸ owners

section Split
variable {before after : List DeclaredEvent} {event : DeclaredEvent}
  (distinct : ((before ++ event :: after).map (·.name)).Nodup)
include distinct

theorem notMem_of_nodup : event.name ∉ before.map (·.name) ∧ event.name ∉ after.map (·.name) := by
  rw [List.map_append, List.map_cons, List.nodup_append] at distinct
  obtain ⟨-, unseen, apart⟩ := distinct
  refine ⟨?_, (List.nodup_cons.mp unseen).1⟩
  intro member
  exact apart _ member _ List.mem_cons_self rfl

/-- A whole build holds, under the name of an event, what the event's own step added. -/
theorem find?_resolveAll :
    (resolveAll source verify (before ++ event :: after)).events.find? (·.name == event.name) =
      (source.fate before event).layout? event (resolveAll source verify before).header? := by
  obtain ⟨notBefore, notAfter⟩ := notMem_of_nodup distinct
  have stepEvents := (resolveAll_step source verify before event).1
  obtain ⟨entries, -, sameEvents, -, names, -⟩ :=
    exists_resolveAll_append source verify (before ++ [event]) after
  rw [List.append_assoc, List.singleton_append] at sameEvents
  have noneBefore : (resolveAll source verify before).events.find? (·.name == event.name) = none := by
    apply List.find?_eq_none.mpr
    intro entry member same
    apply notBefore
    apply (names_resolveAll source verify before).subset
    exact List.mem_map.mpr ⟨entry, member, by simpa using same⟩
  have noneAfter : entries.find? (·.name == event.name) = none := by
    apply List.find?_eq_none.mpr
    intro entry member same
    exact notAfter (names.subset (List.mem_map.mpr ⟨entry, member, by simpa using same⟩))
  rw [sameEvents, stepEvents, List.find?_append, List.find?_append, noneBefore, noneAfter]
  cases made : (source.fate before event).layout? event
      (resolveAll source verify before).header? with
  | none => rfl
  | some layout => simp [Fate.name_of_layout? made]

/-- A whole build reports, under the name of an event, what the event's own step reported. -/
theorem filter_resolveAll :
    (resolveAll source verify (before ++ event :: after)).diagnostics.filter
        (·.event == event.name) =
      (source.fate before event).reports verify event
        (resolveAll source verify before).header? := by
  obtain ⟨notBefore, notAfter⟩ := notMem_of_nodup distinct
  have stepReports := (resolveAll_step source verify before event).2.2
  obtain ⟨-, reports, -, sameReports, -, owners⟩ :=
    exists_resolveAll_append source verify (before ++ [event]) after
  rw [List.append_assoc, List.singleton_append] at sameReports
  have silentBefore : (resolveAll source verify before).diagnostics.filter
      (·.event == event.name) = [] := by
    apply List.filter_eq_nil_iff.mpr
    intro report member same
    have owner := owners_resolveAll source verify before report member
    exact notBefore (by simpa [beq_iff_eq.mp same] using owner)
  have silentAfter : reports.filter (·.event == event.name) = [] := by
    apply List.filter_eq_nil_iff.mpr
    intro report member same
    exact notAfter (by simpa [beq_iff_eq.mp same] using owners report member)
  have own : ((source.fate before event).reports verify event
      (resolveAll source verify before).header?).filter (·.event == event.name) =
      (source.fate before event).reports verify event
        (resolveAll source verify before).header? := by
    apply List.filter_eq_self.mpr
    intro report member
    simp [Fate.event_of_mem_reports member]
  rw [sameReports, stepReports, List.filter_append, List.filter_append, silentBefore,
    silentAfter, own, List.nil_append, List.append_nil]

end Split

/-- Every entry is the layout of a declared event with a format, and uses the shared header. -/
theorem mem_events_resolveAll {declared : List DeclaredEvent} {entry : EventLayout}
    (member : entry ∈ (resolveAll source verify declared).events) :
    ∃ event ∈ declared, ∃ format shared, source.format? event = some format ∧
      (resolveAll source verify declared).header? = some shared ∧
      entry = Progress.layout event format shared := by
  induction declared using List.reverseRecOn with
  | nil => contradiction
  | append_singleton declared event ih =>
    obtain ⟨stepEvents, stepHeader, -⟩ := resolveAll_step source verify declared event
    rw [stepEvents, List.mem_append] at member
    rcases member with earlier | own
    · obtain ⟨other, there, format, shared, read, header, same⟩ := ih earlier
      refine ⟨other, List.mem_append_left _ there, format, shared, read, ?_, same⟩
      rw [stepHeader, header]
      rfl
    · rcases source.fate_cases declared event with
        ⟨-, -, noEntry⟩ | ⟨format, first, -, -, taken⟩ | ⟨format, read, -, resolved⟩
      · simp [noEntry] at own
      · simp [taken, Fate.layout?] at own
      · refine ⟨event, by simp, format,
          (resolveAll source verify declared).header?.getD format.headerSpans, read, ?_, ?_⟩
        · rw [stepHeader, resolved]
          cases (resolveAll source verify declared).header? <;> rfl
        · simpa [resolved, Fate.layout?] using own

theorem mem_diagnostics_resolveAll {declared : List DeclaredEvent} {report : Diagnostic}
    (member : report ∈ (resolveAll source verify declared).diagnostics) :
    ∃ before event after shared?, declared = before ++ event :: after ∧
      report ∈ (source.fate before event).reports verify event shared? := by
  induction declared using List.reverseRecOn with
  | nil => contradiction
  | append_singleton declared event ih =>
    rw [(resolveAll_step source verify declared event).2.2, List.mem_append] at member
    rcases member with earlier | own
    · obtain ⟨before, other, after, shared?, split, made⟩ := ih earlier
      exact ⟨before, other, after ++ [event], shared?, by simp [split], made⟩
    · exact ⟨declared, event, [], _, rfl, own⟩

theorem length_resolveAll (declared : List DeclaredEvent) :
    (resolveAll source verify declared).events.length +
      (resolveAll source verify declared).diagnostics.countP (·.dropsEvent) = declared.length := by
  induction declared using List.reverseRecOn with
  | nil => rfl
  | append_singleton declared event ih =>
    obtain ⟨stepEvents, -, stepReports⟩ := resolveAll_step source verify declared event
    have own := @Fate.length_layout?_add_countP verify event
      (resolveAll source verify declared).header? (source.fate declared event)
    rw [stepEvents, stepReports, List.length_append, List.countP_append, List.length_append,
      List.length_singleton]
    omega

end Build

end TraceLayout
