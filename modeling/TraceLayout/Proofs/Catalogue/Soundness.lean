import Mathlib.Data.List.Induction
import Mathlib.Data.List.Perm.Subperm
import Mathlib.Tactic.SplitIfs
import TraceLayout.Catalogue.Declaration

/-! A catalogue without a defect is one whose declarations are all sound and whose event names are
distinct. The search for the first defect finds one whenever there is one, and it is that of the
first declaration which is unsound or repeats a name. -/
namespace TraceLayout

/-- What a defect is told as: by the name of the event or of its field, and by the group alone where
there is no name to tell. -/
inductive DeclarationError.ToldAs : DeclarationError → String → Prop
  | unnamedEvent :
      ToldAs (.unnamedEvent group) ("event in group '" ++ group ++ "' has an empty name")
  | ungroupedEvent : ToldAs (.ungroupedEvent event) ("event '" ++ event ++ "' has an empty group")
  | unnumberedEvent :
      ToldAs (.unnumberedEvent event) ("event '" ++ event ++ "' has proto field id 0")
  | unnamedField :
      ToldAs (.unnamedField event) ("event '" ++ event ++ "' declares a field with an empty name")
  | unnumberedField : ToldAs (.unnumberedField event field)
      ("field '" ++ field ++ "' of event '" ++ event ++ "' has proto field id 0")
  | repeatedEvent :
      ToldAs (.repeatedEvent event) ("event '" ++ event ++ "' is declared more than once")

theorem DeclarationError.toldAs_iff {defect : DeclarationError} {told : String} :
    defect.ToldAs told ↔ told = defect.message := by
  constructor
  · rintro ⟨⟩ <;> rfl
  · rintro rfl
    cases defect <;> constructor

/-- Every name and group is written and every protobuf number is positive. -/
structure DeclaredEvent.IsSound (event : DeclaredEvent) : Prop where
  named : event.name ≠ ""
  grouped : event.group ≠ ""
  numbered : event.number ≠ 0
  fields : ∀ field ∈ event.fields, field.name ≠ "" ∧ field.number ≠ 0

namespace DeclaredEvent

/-- The defect of a declared field of an event. A missing name comes before a missing number. -/
def ownFieldDefect? (event : String) (field : DeclaredField) : Option DeclarationError :=
  if field.name = "" then some (.unnamedField event)
  else if field.number = 0 then some (.unnumberedField event field.name)
  else none

theorem fieldDefect?_eq_findSome? (event : String) (fields : List DeclaredField) :
    fieldDefect? event fields = fields.findSome? (ownFieldDefect? event) := by
  induction fields with
  | nil => rfl
  | cons field fields ih =>
    rw [List.findSome?_cons, fieldDefect?, ih, ownFieldDefect?]
    split_ifs <;> rfl

theorem ownFieldDefect?_eq_none_iff {event : String} {field : DeclaredField} :
    ownFieldDefect? event field = none ↔ field.name ≠ "" ∧ field.number ≠ 0 := by
  unfold ownFieldDefect?
  split_ifs with unnamed unnumbered <;> simp_all

theorem fieldDefect?_eq_none_iff {event : String} {fields : List DeclaredField} :
    fieldDefect? event fields = none ↔ ∀ field ∈ fields, field.name ≠ "" ∧ field.number ≠ 0 := by
  rw [fieldDefect?_eq_findSome?, List.findSome?_eq_none_iff]
  simp only [ownFieldDefect?_eq_none_iff]

/-- The defect of some fields is that of the first one which has a defect. -/
theorem fieldDefect?_eq_some_iff {event : String} {fields : List DeclaredField}
    {defect : DeclarationError} :
    fieldDefect? event fields = some defect ↔
      ∃ earlier field later, fields = earlier ++ field :: later ∧
        ownFieldDefect? event field = some defect ∧
        ∀ other ∈ earlier, other.name ≠ "" ∧ other.number ≠ 0 := by
  rw [fieldDefect?_eq_findSome?, List.findSome?_eq_some_iff]
  simp only [ownFieldDefect?_eq_none_iff]

theorem defect?_eq_none_iff {event : DeclaredEvent} : event.defect? = none ↔ event.IsSound := by
  constructor
  · intro clean
    unfold defect? at clean
    split at clean
    · contradiction
    split at clean
    · contradiction
    split at clean
    · contradiction
    rename_i named grouped numbered
    exact ⟨named, grouped, numbered, fieldDefect?_eq_none_iff.mp clean⟩
  · rintro ⟨named, grouped, numbered, fields⟩
    simp only [defect?, named, grouped, numbered, if_false]
    exact fieldDefect?_eq_none_iff.mpr fields

/-- A defect that a declaration has by itself, and none of those that come before it. -/
inductive FirstDefect (event : DeclaredEvent) : DeclarationError → Prop
  | unnamed (unnamed : event.name = "") : FirstDefect event (.unnamedEvent event.group)
  | ungrouped (named : event.name ≠ "") (ungrouped : event.group = "") :
      FirstDefect event (.ungroupedEvent event.name)
  | unnumbered (named : event.name ≠ "") (grouped : event.group ≠ "")
      (unnumbered : event.number = 0) : FirstDefect event (.unnumberedEvent event.name)
  | unnamedField (named : event.name ≠ "") (grouped : event.group ≠ "")
      (numbered : event.number ≠ 0) (split : event.fields = earlier ++ field :: later)
      (sound : ∀ other ∈ earlier, other.name ≠ "" ∧ other.number ≠ 0)
      (unnamed : field.name = "") : FirstDefect event (.unnamedField event.name)
  | unnumberedField (named : event.name ≠ "") (grouped : event.group ≠ "")
      (numbered : event.number ≠ 0) (split : event.fields = earlier ++ field :: later)
      (sound : ∀ other ∈ earlier, other.name ≠ "" ∧ other.number ≠ 0)
      (fieldNamed : field.name ≠ "") (unnumbered : field.number = 0) :
      FirstDefect event (.unnumberedField event.name field.name)

theorem defect?_eq_some_iff {event : DeclaredEvent} {defect : DeclarationError} :
    event.defect? = some defect ↔ event.FirstDefect defect := by
  constructor
  · intro found
    unfold defect? at found
    split_ifs at found with unnamed ungrouped unnumbered
    · obtain rfl := Option.some.inj found
      exact .unnamed unnamed
    · obtain rfl := Option.some.inj found
      exact .ungrouped unnamed ungrouped
    · obtain rfl := Option.some.inj found
      exact .unnumbered unnamed ungrouped unnumbered
    obtain ⟨earlier, field, later, split, own, sound⟩ := fieldDefect?_eq_some_iff.mp found
    unfold ownFieldDefect? at own
    split_ifs at own with noName noNumber
    · obtain rfl := Option.some.inj own
      exact .unnamedField unnamed ungrouped unnumbered split sound noName
    · obtain rfl := Option.some.inj own
      exact .unnumberedField unnamed ungrouped unnumbered split sound noName noNumber
  · intro first
    unfold defect?
    cases first with
    | unnamed unnamed => simp [unnamed]
    | ungrouped named ungrouped => simp [named, ungrouped]
    | unnumbered named grouped unnumbered => simp [named, grouped, unnumbered]
    | unnamedField named grouped numbered split sound unnamed =>
      rw [if_neg named, if_neg grouped, if_neg numbered]
      exact fieldDefect?_eq_some_iff.mpr
        ⟨_, _, _, split, by simp [ownFieldDefect?, unnamed], sound⟩
    | unnumberedField named grouped numbered split sound fieldNamed unnumbered =>
      rw [if_neg named, if_neg grouped, if_neg numbered]
      exact fieldDefect?_eq_some_iff.mpr
        ⟨_, _, _, split, by simp [ownFieldDefect?, fieldNamed, unnumbered], sound⟩

end DeclaredEvent

/-- What makes a catalogue buildable: sound declarations of events with distinct names. -/
structure Catalogue.IsSound (events : List DeclaredEvent) : Prop where
  each : ∀ event ∈ events, event.IsSound
  distinct : (events.map (·.name)).Nodup

namespace Catalogue

/-- The names that are taken already must not return, besides what the events require by
themselves. -/
theorem defectAfter?_eq_none_iff {taken : List String} {events : List DeclaredEvent} :
    defectAfter? taken events = none ↔
      IsSound events ∧ ∀ event ∈ events, event.name ∉ taken := by
  induction events generalizing taken with
  | nil => simpa [defectAfter?] using ⟨by simp, by simp⟩
  | cons event events ih =>
    unfold defectAfter?
    cases own : event.defect? with
    | some defect =>
      have unsound : ¬ event.IsSound := by
        simp [← DeclaredEvent.defect?_eq_none_iff, own]
      simpa using fun sound : IsSound (event :: events) =>
        absurd (sound.each event List.mem_cons_self) unsound
    | none =>
      have sound := DeclaredEvent.defect?_eq_none_iff.mp own
      by_cases repeated : event.name ∈ taken
      · simp [repeated]
      · simp only [repeated, if_false, ih]
        constructor
        · rintro ⟨⟨each, distinct⟩, fresh⟩
          have unseen : event.name ∉ events.map (·.name) := by
            intro member
            obtain ⟨other, there, same⟩ := List.mem_map.mp member
            exact fresh other there (same ▸ List.mem_cons_self)
          refine ⟨⟨List.forall_mem_cons.mpr ⟨sound, each⟩, List.nodup_cons.mpr ⟨unseen, distinct⟩⟩,
            List.forall_mem_cons.mpr ⟨repeated, ?_⟩⟩
          exact fun other there => fun seen => fresh other there (List.mem_cons_of_mem _ seen)
        · rintro ⟨⟨each, distinct⟩, fresh⟩
          obtain ⟨unseen, distinct⟩ := List.nodup_cons.mp distinct
          refine ⟨⟨fun other there => each other (List.mem_cons_of_mem _ there), distinct⟩, ?_⟩
          intro other there seen
          rcases List.mem_cons.mp seen with same | seen
          · exact unseen (List.mem_map.mpr ⟨other, there, same⟩)
          · exact fresh other (List.mem_cons_of_mem _ there) seen

theorem defect?_eq_none_iff {events : List DeclaredEvent} :
    defect? events = none ↔ IsSound events := by
  simp [defect?, defectAfter?_eq_none_iff]

/-- The defect of the first declaration that is unsound or repeats a name. Its own defect comes
before the repetition. -/
inductive FirstDefect (events : List DeclaredEvent) : DeclarationError → Prop
  | own (split : events = before ++ event :: after) (sound : IsSound before)
      (defective : event.FirstDefect defect) : FirstDefect events defect
  | repeated (split : events = before ++ event :: after) (sound : IsSound before)
      (ownSound : event.IsSound) (taken : event.name ∈ before.map (·.name)) :
      FirstDefect events (.repeatedEvent event.name)

theorem FirstDefect.append {events : List DeclaredEvent} {defect : DeclarationError}
    (first : FirstDefect events defect) (more : List DeclaredEvent) :
    FirstDefect (events ++ more) defect := by
  cases first with
  | own split sound defective =>
    rw [split, List.append_assoc, List.cons_append]
    exact .own rfl sound defective
  | repeated split sound ownSound taken =>
    rw [split, List.append_assoc, List.cons_append]
    exact .repeated rfl sound ownSound taken

/-- Declarations that follow others are searched with the names of those taken. -/
theorem defectAfter?_append (taken : List String) (before after : List DeclaredEvent) :
    defectAfter? taken (before ++ after) =
      (defectAfter? taken before).or
        (defectAfter? ((before.map (·.name)).reverse ++ taken) after) := by
  induction before generalizing taken with
  | nil => rfl
  | cons event before ih =>
    rw [List.cons_append, defectAfter?, defectAfter?]
    cases event.defect? with
    | some defect => rfl
    | none =>
      by_cases repeated : event.name ∈ taken
      · simp [repeated]
      · simp [repeated, ih]

theorem defect?_append (before after : List DeclaredEvent) :
    defect? (before ++ after) =
      (defect? before).or (defectAfter? (before.map (·.name)).reverse after) := by
  rw [defect?, defectAfter?_append, List.append_nil, defect?]

theorem defect?_eq_some_iff {events : List DeclaredEvent} {defect : DeclarationError} :
    defect? events = some defect ↔ FirstDefect events defect := by
  constructor
  · intro found
    induction events using List.reverseRecOn with
    | nil => contradiction
    | append_singleton before event ih =>
      rw [defect?_append] at found
      cases earlier : defect? before with
      | some other =>
        rw [earlier] at found
        obtain rfl := Option.some.inj found
        exact (ih earlier).append [event]
      | none =>
        have sound := defect?_eq_none_iff.mp earlier
        rw [earlier, Option.none_or, defectAfter?] at found
        cases own : event.defect? with
        | some other =>
          rw [own] at found
          obtain rfl := Option.some.inj found
          exact .own rfl sound (DeclaredEvent.defect?_eq_some_iff.mp own)
        | none =>
          have ownSound := DeclaredEvent.defect?_eq_none_iff.mp own
          simp only [own, List.mem_reverse, defectAfter?] at found
          split_ifs at found with taken
          obtain rfl := Option.some.inj found
          exact .repeated rfl sound ownSound taken
  · rintro (⟨rfl, sound, defective⟩ | ⟨rfl, sound, ownSound, taken⟩)
    · rw [defect?_append, defect?_eq_none_iff.mpr sound, Option.none_or, defectAfter?,
        DeclaredEvent.defect?_eq_some_iff.mpr defective]
    · rw [defect?_append, defect?_eq_none_iff.mpr sound, Option.none_or, defectAfter?,
        DeclaredEvent.defect?_eq_none_iff.mpr ownSound]
      exact if_pos (List.mem_reverse.mpr taken)

/-- An event that repeats a name is refused for its own defect, and for the first one it has. -/
example :
    defect? [⟨"cpu_idle", "power", 13, []⟩,
      ⟨"cpu_idle", "irq", 26, [⟨"state", 1, .uint32⟩, ⟨"", 0, .uint32⟩, ⟨"cpu_id", 0, .uint32⟩]⟩] =
        some (.unnamedField "cpu_idle") := by
  decide

/-- Leaving events out and putting them in another order keep a catalogue sound. -/
theorem IsSound.of_subperm {part events : List DeclaredEvent} (chosen : part.Subperm events)
    (sound : IsSound events) : IsSound part where
  each event member := sound.each event (chosen.subset member)
  distinct := by
    obtain ⟨kept, perm, sublist⟩ := chosen
    exact (perm.map _).nodup_iff.mp (sound.distinct.sublist (sublist.map _))

end TraceLayout.Catalogue
