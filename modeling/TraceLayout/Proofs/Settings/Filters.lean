import TraceLayout.Proofs.Catalogue.Soundness
import TraceLayout.Settings.Basic

/-! Filters select events by group and name. A filter that the check accepts has a single slash, so
that it is the path of no more than one pair, and paths can be compared in place of pairs. -/
namespace TraceLayout.Settings

/-- Group and name are the halves of a filter that has a single slash. -/
structure Halves (filter group name : String) : Prop where
  joined : filter = group ++ "/" ++ name
  group : '/' ∉ group.toList
  name : '/' ∉ name.toList

instance (filter group name : String) : Decidable (Halves filter group name) :=
  decidable_of_iff
    (filter = group ++ "/" ++ name ∧ '/' ∉ group.toList ∧ '/' ∉ name.toList)
    ⟨fun ⟨joined, group, name⟩ => ⟨joined, group, name⟩,
      fun ⟨joined, group, name⟩ => ⟨joined, group, name⟩⟩

/-- Both halves of a filter are written. -/
def NamesEvent (filter : String) : Prop :=
  ∃ group name, Halves filter group name ∧ group ≠ "" ∧ name ≠ ""

theorem toList_path (group name : String) :
    (group ++ "/" ++ name).toList = group.toList ++ '/' :: name.toList := by
  simp

/-- A filter with a single slash is cut there, whatever pair it is compared with. -/
theorem Halves.of_path {filter group name group' name' : String}
    (halves : Halves filter group name) (path : filter = group' ++ "/" ++ name') :
    group' = group ∧ name' = name := by
  have same := congrArg String.toList (halves.joined.symm.trans path)
  rw [toList_path, toList_path] at same
  obtain ⟨sameGroup, -, sameName⟩ :=
    (List.append_cons_inj_of_notMem halves.group halves.name).mp same
  exact ⟨String.toList_inj.mp sameGroup.symm, String.toList_inj.mp sameName.symm⟩

theorem Halves.splitOn_eq {filter group name : String} (halves : Halves filter group name) :
    filter.toList.splitOn '/' = [group.toList, name.toList] := by
  rw [halves.joined, toList_path, List.splitOn_append_cons_self_of_not_mem halves.group,
    List.splitOn_eq_singleton halves.name]

/-- A text falls into two pieces only where it has a single slash. -/
theorem halves_of_splitOn {filter : String} {group name : List Char}
    (pieces : filter.toList.splitOn '/' = [group, name]) :
    Halves filter (String.ofList group) (String.ofList name) := by
  by_cases slash : '/' ∈ filter.toList
  · obtain ⟨before, after, split, free⟩ := List.eq_append_cons_of_mem slash
    rw [split, List.splitOn_append_cons_self_of_not_mem free] at pieces
    obtain ⟨rfl, rest⟩ := List.cons.inj pieces
    by_cases more : '/' ∈ after
    · obtain ⟨between, last, rfl, free'⟩ := List.eq_append_cons_of_mem more
      rw [List.splitOn_append_cons_self_of_not_mem free'] at rest
      exact absurd (List.cons.inj rest).2 (List.splitOn_ne_nil '/' last)
    · rw [List.splitOn_eq_singleton more] at rest
      obtain rfl := List.singleton_inj.mp rest
      refine ⟨String.toList_inj.mp ?_, by simpa using free, by simpa using more⟩
      rw [split, toList_path, String.toList_ofList, String.toList_ofList]
  · rw [List.splitOn_eq_singleton slash] at pieces
    exact absurd (List.cons.inj pieces).2 (by simp)

theorem isFilter_iff {filter : String} : isFilter filter = true ↔ NamesEvent filter := by
  unfold isFilter
  constructor
  · intro accepted
    split at accepted
    · rename_i group name pieces
      simp only [Bool.and_eq_true, bne_iff_ne] at accepted
      refine ⟨_, _, halves_of_splitOn pieces, ?_, ?_⟩
      · simpa using accepted.1
      · simpa using accepted.2
    · contradiction
  · rintro ⟨group, name, halves, grouped, named⟩
    rw [halves.splitOn_eq]
    simpa using ⟨grouped, named⟩

theorem filterError?_eq_none_iff {settings : Settings} :
    settings.filterError? = none ↔ ∀ filter ∈ settings.filters, NamesEvent filter := by
  simp [filterError?, isFilter_iff]

theorem filterError?_eq_some_iff {settings : Settings} {error : FilterError} :
    settings.filterError? = some error ↔
      ∃ before after, settings.filters = before ++ error.filter :: after ∧
        (∀ filter ∈ before, NamesEvent filter) ∧ ¬ NamesEvent error.filter := by
  have found : settings.filterError? = some error ↔
      settings.filters.find? (!isFilter ·) = some error.filter := by
    rw [filterError?, Option.map_eq_some_iff]
    constructor
    · rintro ⟨filter, first, rfl⟩
      exact first
    · exact fun first => ⟨_, first, rfl⟩
  rw [found, List.find?_eq_some_iff_append]
  simp only [Bool.not_not, Bool.not_eq_true', ← Bool.not_eq_true, isFilter_iff]
  constructor
  · rintro ⟨refused, before, after, split, accepted⟩
    exact ⟨before, after, split, accepted, refused⟩
  · rintro ⟨before, after, split, accepted, refused⟩
    exact ⟨refused, before, after, split, accepted⟩

theorem select_subperm (settings : Settings) (declared : List DeclaredEvent) :
    (settings.select declared).Subperm declared := by
  unfold select
  split
  · exact List.Subperm.refl declared
  · exact List.filter_sublist.subperm

theorem select_select (settings : Settings) (events : List DeclaredEvent) :
    settings.select (settings.select events) = settings.select events := by
  unfold select
  split
  · rfl
  · rw [List.filter_filter]
    simp only [Bool.and_self]

/-- Only which filters there are matters to a selection. -/
theorem select_congr {settings settings' : Settings}
    (same : ∀ filter, filter ∈ settings'.filters ↔ filter ∈ settings.filters)
    (events : List DeclaredEvent) : settings'.select events = settings.select events := by
  have none_ : settings'.filters = [] ↔ settings.filters = [] := by
    rw [List.eq_nil_iff_forall_not_mem, List.eq_nil_iff_forall_not_mem]
    simp only [same]
  unfold select
  simp only [none_]
  split
  · rfl
  · apply List.filter_congr
    intro event _
    rw [Bool.eq_iff_iff, List.any_eq_true, List.any_eq_true]
    simp only [same]

section Accepted
variable {settings : Settings} (accepted : settings.filterError? = none)
include accepted

theorem halves_iff_eq_path {filter : String} (member : filter ∈ settings.filters)
    (event : DeclaredEvent) : Halves filter event.group event.name ↔ filter = event.path := by
  constructor
  · exact fun halves => halves.joined
  · intro path
    obtain ⟨group, name, halves, -, -⟩ := filterError?_eq_none_iff.mp accepted filter member
    obtain ⟨rfl, rfl⟩ := halves.of_path path
    exact halves

theorem select_eq_filter (some_ : settings.filters ≠ []) (events : List DeclaredEvent) :
    settings.select events =
      events.filter fun event => ∃ filter ∈ settings.filters,
        Halves filter event.group event.name := by
  rw [select, if_neg some_]
  apply List.filter_congr
  intro event _
  rw [Bool.eq_iff_iff, List.any_eq_true, decide_eq_true_iff]
  constructor
  · rintro ⟨filter, member, path⟩
    exact ⟨filter, member, (halves_iff_eq_path accepted member event).mpr (beq_iff_eq.mp path)⟩
  · rintro ⟨filter, member, halves⟩
    exact ⟨filter, member, beq_iff_eq.mpr halves.joined⟩

end Accepted

/-- The check of filters accepts exactly those that have a single slash between two written halves,
and reports the first other one. Accepted filters select the events whose group and name are the
halves of one of them, in the order of the catalogue. -/
theorem select_selects :
    (∀ settings : Settings, settings.filterError? = none ↔
      ∀ filter ∈ settings.filters, NamesEvent filter) ∧
    (∀ (settings : Settings) (error : FilterError), settings.filterError? = some error ↔
      ∃ before after, settings.filters = before ++ error.filter :: after ∧
        (∀ filter ∈ before, NamesEvent filter) ∧ ¬ NamesEvent error.filter) ∧
    (∀ error : FilterError, error.message =
      "Invalid event filter '" ++ error.filter ++ "': expected GROUP/NAME") ∧
    ∀ settings : Settings, settings.filterError? = none →
      (∀ events, (settings.filters = [] → settings.select events = events) ∧
        (settings.filters ≠ [] → settings.select events =
          events.filter fun event => ∃ filter ∈ settings.filters,
            Halves filter event.group event.name)) ∧
      (∀ filter ∈ settings.filters, ∀ event other : DeclaredEvent, filter = event.path →
        filter = other.path → event.group = other.group ∧ event.name = other.name) ∧
      (∀ settings' : Settings,
        (∀ filter, filter ∈ settings'.filters ↔ filter ∈ settings.filters) →
        settings'.filterError? = none ∧
          ∀ events, settings'.select events = settings.select events) ∧
      (∀ events, settings.select (settings.select events) = settings.select events) ∧
      ∀ events, Catalogue.defect? events = none →
        Catalogue.defect? (settings.select events) = none := by
  refine ⟨fun _ => filterError?_eq_none_iff, fun _ _ => filterError?_eq_some_iff, ?_, ?_⟩
  · intro error
    rfl
  intro settings accepted
  refine ⟨fun events => ⟨fun none_ => if_pos none_, fun some_ =>
    select_eq_filter accepted some_ events⟩, ?_, ?_, settings.select_select, ?_⟩
  · intro filter member event other path path'
    have halves := (halves_iff_eq_path accepted member event).mpr path
    obtain ⟨group, name⟩ := halves.of_path path'
    exact ⟨group.symm, name.symm⟩
  · intro settings' same
    refine ⟨filterError?_eq_none_iff.mpr fun filter member => ?_, select_congr same⟩
    exact filterError?_eq_none_iff.mp accepted filter ((same filter).mp member)
  · intro events clean
    have sound := Catalogue.defect?_eq_none_iff.mp clean
    exact Catalogue.defect?_eq_none_iff.mpr (sound.of_subperm (settings.select_subperm events))

/-- The first filter that is refused has a slash too many. -/
example :
    filterError? { filters := ["ipi/ipi_exit", "ipi/ipi_exit/format", "/ipi_exit"] } =
      some ⟨"ipi/ipi_exit/format"⟩ := by
  decide

/-- Filters out of order, and one of them twice. -/
def repeatedFilters : Settings := { filters := ["power/cpu_idle", "ipi/exit", "power/cpu_idle"] }

/-- Events of which some have slashes in their groups and names. -/
def slashedEvents : List DeclaredEvent :=
  [⟨"exit", "ipi", 22, []⟩, ⟨"cpu_idle/", "power", 11, []⟩, ⟨"idle", "power/cpu", 12, []⟩,
   ⟨"cpu_idle", "power", 13, []⟩, ⟨"/exit", "ipi", 21, []⟩]

theorem select_selects_sample :
    repeatedFilters.filterError? = none ∧ repeatedFilters.filters ≠ [] ∧
    "ipi/exit" ∈ repeatedFilters.filters ∧ Catalogue.defect? slashedEvents = none ∧
    (∀ filter, filter ∈ ["ipi/exit", "power/cpu_idle"] ↔ filter ∈ repeatedFilters.filters) ∧
    (repeatedFilters.select slashedEvents).map (·.path) = ["ipi/exit", "power/cpu_idle"] ∧
    select { filters := ["ipi/exit", "power/cpu_idle"] } slashedEvents =
      repeatedFilters.select slashedEvents ∧
    repeatedFilters.select (repeatedFilters.select slashedEvents) =
      repeatedFilters.select slashedEvents ∧
    Catalogue.defect? (repeatedFilters.select slashedEvents) = none := by
  have accepted : repeatedFilters.filterError? = none := by decide
  have some_ : repeatedFilters.filters ≠ [] := by decide
  have clean : Catalogue.defect? slashedEvents = none := by decide
  have same : ∀ filter, filter ∈ ["ipi/exit", "power/cpu_idle"] ↔
      filter ∈ repeatedFilters.filters := by
    intro filter
    simp only [repeatedFilters, List.mem_cons, List.not_mem_nil, or_false]
    exact ⟨fun given => given.elim (.inr ∘ .inl) .inl,
      fun given => given.elim .inr (·.elim .inl .inr)⟩
  obtain ⟨-, -, -, selects⟩ := select_selects
  obtain ⟨selected, -, congr_, twice, valid⟩ := selects repeatedFilters accepted
  refine ⟨accepted, some_, by decide, clean, same, ?_,
    (congr_ { filters := ["ipi/exit", "power/cpu_idle"] } same).2 slashedEvents,
    twice slashedEvents, valid slashedEvents clean⟩
  rw [(selected slashedEvents).2 some_]
  decide

end TraceLayout.Settings
