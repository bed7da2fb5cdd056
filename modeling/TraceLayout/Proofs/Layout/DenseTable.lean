import Mathlib.Data.List.Nodup
import TraceLayout.Layout.Table

/-! Lookups in a table of events with distinct names and distinct ids other than zero. The writes
that build the table land in slots of their own, so a lookup by id or by name is a search of the
events themselves. -/
namespace TraceLayout

theorem find?_insertEntry {name other : String} {slot : Nat} {entries : List (String × Nat)} :
    (insertEntry name slot entries).find? (·.1 == other) =
      if name = other then some (name, slot) else entries.find? (·.1 == other) := by
  induction entries with
  | nil => by_cases same : name = other <;> simp [insertEntry, same]
  | cons entry entries ih =>
    unfold insertEntry
    split
    · by_cases same : name = other <;> simp [same]
    · split
      · rename_i here
        by_cases same : name = other <;> simp [← here, same]
      · rename_i different
        by_cases same : entry.1 = other
        · simp [same, show name ≠ other from same ▸ different]
        · simp [same, ih]

theorem length_insertEntry {name : String} {slot : Nat} {entries : List (String × Nat)}
    (absent : ∀ entry ∈ entries, entry.1 ≠ name) :
    (insertEntry name slot entries).length = entries.length + 1 := by
  induction entries with
  | nil => rfl
  | cons entry entries ih =>
    obtain ⟨different, absent⟩ := List.forall_mem_cons.mp absent
    unfold insertEntry
    split
    · rfl
    · rw [if_neg (Ne.symm different), List.length_cons, ih absent, List.length_cons]

namespace NameIndex

@[simp]
theorem get?_empty (name : String) : empty.get? name = none := rfl

theorem get?_insert (index : NameIndex) (name : String) (slot : Nat) (other : String) :
    (index.insert name slot).get? other =
      if name = other then some slot else index.get? other := by
  by_cases same : name = other <;> simp [get?, insert, find?_insertEntry, same]

theorem size_insert {index : NameIndex} {name : String} (absent : index.get? name = none)
    (slot : Nat) : (index.insert name slot).size = index.size + 1 := by
  apply length_insertEntry
  intro entry member same
  have found : index.entries.find? (·.1 == name) = none := by simpa [get?] using absent
  exact List.find?_eq_none.mp found entry member (by simpa using same)

end NameIndex

namespace Table

theorem le_foldl_max {ns : List Nat} {n : Nat} (member : n ∈ ns) : n ≤ ns.foldl max 0 := by
  rw [List.foldl_max]
  cases largest : ns.max? with
  | none => simp [List.max?_eq_none_iff.mp largest] at member
  | some m => simpa using (List.max?_eq_some_iff.mp largest).2 n member

theorem foldl_max_mem {ns : List Nat} (some_ : ns ≠ []) : ns.foldl max 0 ∈ ns := by
  rw [List.foldl_max]
  cases largest : ns.max? with
  | none => exact absurd (List.max?_eq_none_iff.mp largest) some_
  | some m => simpa using (List.max?_eq_some_iff.mp largest).1

theorem largestIdOf_eq (events : List EventLayout) :
    largestIdOf events = (events.map (·.id.toNat)).foldl max 0 := by
  rw [largestIdOf, List.foldl_map]

theorem le_largestIdOf {events : List EventLayout} {event : EventLayout} (member : event ∈ events) :
    event.id.toNat ≤ largestIdOf events := by
  rw [largestIdOf_eq]
  exact le_foldl_max (List.mem_map_of_mem member)

theorem exists_largestIdOf {events : List EventLayout} (some_ : events ≠ []) :
    ∃ event ∈ events, largestIdOf events = event.id.toNat := by
  have listed : largestIdOf events ∈ events.map (·.id.toNat) := by
    rw [largestIdOf_eq]
    exact foldl_max_mem (by simpa using some_)
  obtain ⟨event, member, same⟩ := List.mem_map.mp listed
  exact ⟨event, member, same.symm⟩

theorem largestIdOf_le_of_subset {events others : List EventLayout} (within : events ⊆ others) :
    largestIdOf events ≤ largestIdOf others := by
  by_cases none_ : events = []
  · rw [none_]
    exact Nat.zero_le _
  · obtain ⟨event, member, largest⟩ := exists_largestIdOf none_
    rw [largest]
    exact le_largestIdOf (within member)

@[simp]
theorem largestIdOf_nil : largestIdOf [] = 0 := rfl

@[simp]
theorem size_slots_put (table : Table) (event : EventLayout) :
    (table.put event).slots.size = table.slots.size := by
  simp [put]

theorem size_slots_foldl_put (events : List EventLayout) (table : Table) :
    (events.foldl put table).slots.size = table.slots.size := by
  induction events generalizing table with
  | nil => rfl
  | cons event events ih => rw [List.foldl_cons, ih, size_slots_put]

theorem header_foldl_put (events : List EventLayout) (table : Table) :
    (events.foldl put table).header = table.header := by
  induction events generalizing table with
  | nil => rfl
  | cons event events ih => rw [List.foldl_cons, ih, put]

theorem header_ofEvents (events : List EventLayout) (header : List ByteSpan) :
    (ofEvents events header).header = header :=
  header_foldl_put events _

theorem slots_put (table : Table) (event : EventLayout) (slot : Nat) :
    (table.put event).slots[slot]? =
      table.slots[slot]?.map fun old => if event.id.toNat = slot then event else old := by
  simp only [put, Array.getElem?_setIfInBounds]
  by_cases here : event.id.toNat = slot
  · by_cases inside : event.id.toNat < table.slots.size <;> simp_all
  · simp [here]

/-- With distinct ids no write undoes an earlier one: a slot ends with the event of its number, or
as it was. -/
theorem slots_foldl_put {events : List EventLayout} (distinct : (events.map (·.id)).Nodup)
    (table : Table) (slot : Nat) :
    (events.foldl put table).slots[slot]? =
      table.slots[slot]?.map fun old => (events.find? (·.id.toNat == slot)).getD old := by
  induction events generalizing table with
  | nil => simp
  | cons event events ih =>
    obtain ⟨fresh, distinct⟩ := List.nodup_cons.mp distinct
    rw [List.foldl_cons, ih distinct, slots_put, Option.map_map]
    congr 1
    funext old
    by_cases here : event.id.toNat = slot
    · have alone : events.find? (·.id.toNat == slot) = none := by
        apply List.find?_eq_none.mpr
        intro other member same
        have same : other.id = event.id := by
          apply UInt32.toNat_inj.mp
          simpa [here] using same
        exact fresh (List.mem_map.mpr ⟨other, member, same⟩)
      simp [here, alone]
    · simp [here]

theorem get?_names_foldl_put {events : List EventLayout} (distinct : (events.map (·.name)).Nodup)
    (table : Table) (name : String) :
    (events.foldl put table).names.get? name =
      ((events.find? (·.name == name)).map (·.id.toNat)).or (table.names.get? name) := by
  induction events generalizing table with
  | nil => simp
  | cons event events ih =>
    obtain ⟨fresh, distinct⟩ := List.nodup_cons.mp distinct
    rw [List.foldl_cons, ih distinct, put, NameIndex.get?_insert]
    by_cases here : event.name = name
    · have alone : events.find? (·.name == name) = none := by
        apply List.find?_eq_none.mpr
        intro other member same
        exact fresh (List.mem_map.mpr ⟨other, member, by simpa [here] using same⟩)
      simp [here, alone]
    · simp [here]

theorem size_names_foldl_put {events : List EventLayout} {table : Table}
    (distinct : (events.map (·.name)).Nodup)
    (absent : ∀ event ∈ events, table.names.get? event.name = none) :
    (events.foldl put table).names.size = table.names.size + events.length := by
  induction events generalizing table with
  | nil => rfl
  | cons event events ih =>
    obtain ⟨fresh, distinct⟩ := List.nodup_cons.mp distinct
    obtain ⟨here, absent⟩ := List.forall_mem_cons.mp absent
    have still : ∀ other ∈ events, (table.put event).names.get? other.name = none := by
      intro other member
      have different : event.name ≠ other.name := by
        intro same
        exact fresh (List.mem_map.mpr ⟨other, member, same.symm⟩)
      rw [put, NameIndex.get?_insert, if_neg different]
      exact absent other member
    rw [List.foldl_cons, ih distinct still, put, NameIndex.size_insert here, List.length_cons]
    omega

end Table

/-- What a list of events needs for a table of them: ids other than zero that sixteen bits hold,
and no id or name twice. -/
structure Indexable (events : List EventLayout) : Prop where
  assigned : ∀ event ∈ events, event.number ≠ 0 ∧ event.id ≠ 0
  bounded : ∀ event ∈ events, event.id.toNat < 65536
  ids : (events.map (·.id)).Nodup
  names : (events.map (·.name)).Nodup

namespace Indexable
variable {events : List EventLayout}

theorem find?_eq_some_iff {α β : Type} [BEq β] [LawfulBEq β] {key : α → β} {xs : List α}
    (distinct : (xs.map key).Nodup) {x : α} {k : β} :
    xs.find? (key · == k) = some x ↔ x ∈ xs ∧ key x = k := by
  constructor
  · intro found
    exact ⟨List.mem_of_find?_eq_some found, by simpa using List.find?_some found⟩
  · rintro ⟨member, rfl⟩
    cases found : xs.find? (key · == key x) with
    | none => simpa using List.find?_eq_none.mp found x member
    | some y =>
      have same : key y = key x := by simpa using List.find?_some found
      rw [List.inj_on_of_nodup_map distinct (List.mem_of_find?_eq_some found) member same]

theorem find?_toNat (id : UInt32) :
    events.find? (·.id.toNat == id.toNat) = events.find? (·.id == id) := by
  congr 1
  funext event
  exact Bool.eq_iff_iff.mpr (by simp [UInt32.toNat_inj])

theorem nodup_toNat (fit : Indexable events) : (events.map (·.id.toNat)).Nodup := by
  have injective : Function.Injective UInt32.toNat := fun _ _ => UInt32.toNat_inj.mp
  simpa [List.map_map, Function.comp_def] using fit.ids.map injective

theorem find?_toNat_eq_some_iff (fit : Indexable events) {event : EventLayout} {slot : Nat} :
    events.find? (·.id.toNat == slot) = some event ↔ event ∈ events ∧ event.id.toNat = slot :=
  find?_eq_some_iff fit.nodup_toNat

/-- An entry that is not blank is the event of its slot. -/
theorem slot_cases (fit : Indexable events) {header : List ByteSpan} {slot : Nat}
    {entry : EventLayout} (held : (Table.ofEvents events header).slots[slot]? = some entry) :
    (entry = .blank ∧ ∀ event ∈ events, event.id.toNat ≠ slot) ∨
      (entry ∈ events ∧ entry.id.toNat = slot) := by
  rw [Table.ofEvents, Table.slots_foldl_put fit.ids] at held
  obtain ⟨old, vacant, same⟩ := Option.map_eq_some_iff.mp held
  have blank : EventLayout.blank = old := by
    simp only [Table.vacant, Array.getElem?_replicate] at vacant
    split at vacant
    · exact Option.some.inj vacant
    · contradiction
  subst blank
  cases found : events.find? (·.id.toNat == slot) with
  | none =>
    refine .inl ⟨by simpa [found] using same.symm, ?_⟩
    simpa using List.find?_eq_none.mp found
  | some event =>
    have here : event = entry := by simpa [found] using same
    exact .inr (here ▸ fit.find?_toNat_eq_some_iff.mp found)

theorem slot_eq_of_mem (fit : Indexable events) (header : List ByteSpan) {event : EventLayout}
    (member : event ∈ events) :
    (Table.ofEvents events header).slots[event.id.toNat]? = some event := by
  have inside : event.id.toNat < Table.largestIdOf events + 1 :=
    Nat.lt_succ_of_le (Table.le_largestIdOf member)
  have found := fit.find?_toNat_eq_some_iff.mpr ⟨member, rfl⟩
  simp [Table.ofEvents, Table.slots_foldl_put fit.ids, Table.vacant, inside, found]

theorem isPresent (fit : Indexable events) {event : EventLayout} (member : event ∈ events) :
    event.isPresent = true := by
  simpa [EventLayout.isPresent] using (fit.assigned event member).2

theorem getId?_eq (fit : Indexable events) (header : List ByteSpan) (id : UInt32) :
    (Table.ofEvents events header).getId? id = events.find? (·.id == id) := by
  apply Option.ext
  intro event
  rw [find?_eq_some_iff fit.ids, Table.getId?, Option.filter_eq_some_iff]
  constructor
  · rintro ⟨held, present⟩
    rcases fit.slot_cases held with ⟨rfl, -⟩ | ⟨member, same⟩
    · contradiction
    · exact ⟨member, UInt32.toNat_inj.mp same⟩
  · rintro ⟨member, rfl⟩
    exact ⟨fit.slot_eq_of_mem header member, fit.isPresent member⟩

theorem get?_names_eq (fit : Indexable events) (header : List ByteSpan) (name : String) :
    (Table.ofEvents events header).names.get? name =
      (events.find? (·.name == name)).map (·.id.toNat) := by
  simp [Table.ofEvents, Table.get?_names_foldl_put fit.names, Table.vacant]

theorem getName?_eq (fit : Indexable events) (header : List ByteSpan) (name : String) :
    (Table.ofEvents events header).getName? name = events.find? (·.name == name) := by
  rw [Table.getName?, fit.get?_names_eq]
  cases found : events.find? (·.name == name) with
  | none => rfl
  | some event => exact fit.slot_eq_of_mem header (List.mem_of_find?_eq_some found)

theorem mem_events_iff (fit : Indexable events) (header : List ByteSpan) {event : EventLayout} :
    event ∈ (Table.ofEvents events header).events ↔ event ∈ events := by
  rw [Table.events, List.mem_filter, Array.mem_toList_iff, Array.mem_iff_getElem?]
  constructor
  · rintro ⟨⟨slot, held⟩, present⟩
    rcases fit.slot_cases held with ⟨rfl, -⟩ | ⟨member, -⟩
    · contradiction
    · exact member
  · intro member
    exact ⟨⟨_, fit.slot_eq_of_mem header member⟩, fit.isPresent member⟩

theorem pairwise_events (fit : Indexable events) (header : List ByteSpan) :
    (Table.ofEvents events header).events.Pairwise (·.id < ·.id) := by
  rw [Table.events, List.pairwise_filter, List.pairwise_iff_getElem]
  intro i j hi hj before presentI presentJ
  have slotOf : ∀ k (hk : k < (Table.ofEvents events header).slots.toList.length),
      (Table.ofEvents events header).slots.toList[k].isPresent = true →
      (Table.ofEvents events header).slots.toList[k].id.toNat = k := by
    intro k hk present
    have held : (Table.ofEvents events header).slots[k]? =
        some (Table.ofEvents events header).slots.toList[k] := by
      rw [← Array.getElem?_toList, List.getElem?_eq_getElem hk]
    rcases fit.slot_cases held with ⟨blank, -⟩ | ⟨-, same⟩
    · rw [blank] at present
      contradiction
    · exact same
  rw [UInt32.lt_iff_toNat_lt, slotOf i hi presentI, slotOf j hj presentJ]
  exact before

theorem events_perm (fit : Indexable events) (header : List ByteSpan) :
    (Table.ofEvents events header).events.Perm events := by
  apply (List.perm_ext_iff_of_nodup _ (List.Nodup.of_map _ fit.ids)).mpr
  · exact fun event => fit.mem_events_iff header
  · exact (fit.pairwise_events header).imp fun below same => by simp [same] at below

theorem size_eq (fit : Indexable events) (header : List ByteSpan) :
    (Table.ofEvents events header).size = events.length := by
  have absent : ∀ event ∈ events,
      (Table.vacant (Table.largestIdOf events) header).names.get? event.name = none :=
    fun _ _ => NameIndex.get?_empty _
  rw [Table.size, Table.ofEvents, Table.size_names_foldl_put fit.names absent]
  exact Nat.zero_add _

theorem size_slots_eq (events : List EventLayout) (header : List ByteSpan) :
    (Table.ofEvents events header).slots.size = Table.largestIdOf events + 1 := by
  simp [Table.ofEvents, Table.size_slots_foldl_put, Table.vacant]

theorem largestId_eq (events : List EventLayout) (header : List ByteSpan) :
    (Table.ofEvents events header).largestId = Table.largestIdOf events := by
  rw [Table.largestId, size_slots_eq, Nat.add_sub_cancel]

theorem write_fresh {before after : List EventLayout} {event : EventLayout}
    (fit : Indexable (before ++ event :: after)) (header : List ByteSpan) {largest : Nat}
    (inside : event.id.toNat ≤ largest) :
    (before.foldl Table.put (.vacant largest header)).slots[event.id.toNat]? = some .blank ∧
      (before.foldl Table.put (.vacant largest header)).names.get? event.name = none := by
  have ids := fit.ids
  have names := fit.names
  simp only [List.map_append, List.map_cons, List.nodup_append, List.mem_cons] at ids names
  obtain ⟨distinctIds, -, otherId⟩ := ids
  obtain ⟨distinctNames, -, otherName⟩ := names
  have noId : before.find? (·.id.toNat == event.id.toNat) = none := by
    rw [find?_toNat]
    apply List.find?_eq_none.mpr
    intro other member same
    exact otherId other.id (List.mem_map_of_mem member) event.id (.inl rfl) (by simpa using same)
  have noName : before.find? (·.name == event.name) = none := by
    apply List.find?_eq_none.mpr
    intro other member same
    exact otherName other.name (List.mem_map_of_mem member) event.name (.inl rfl)
      (by simpa using same)
  constructor
  · simp [Table.slots_foldl_put distinctIds, noId, Table.vacant, Nat.lt_succ_of_le inside]
  · simp [Table.get?_names_foldl_put distinctNames, noName, Table.vacant]

end Indexable

namespace NameIndex

theorem nodup_names (index : NameIndex) : (index.entries.map (·.1)).Nodup := by
  apply List.pairwise_map.mpr
  apply index.ordered.imp
  intro first second before same
  exact String.lt_irrefl second.1 (same ▸ before)

theorem mem_entries_iff {index : NameIndex} {entry : String × Nat} :
    entry ∈ index.entries ↔ index.get? entry.1 = some entry.2 := by
  rw [get?, Option.map_eq_some_iff]
  constructor
  · intro member
    exact ⟨entry, (Indexable.find?_eq_some_iff index.nodup_names).mpr ⟨member, rfl⟩, rfl⟩
  · rintro ⟨other, found, slot⟩
    obtain ⟨member, name⟩ := (Indexable.find?_eq_some_iff index.nodup_names).mp found
    exact Prod.ext name slot ▸ member

/-- An index is known by the slots that it gives to names. -/
theorem ext_get? {index other : NameIndex} (same : ∀ name, index.get? name = other.get? name) :
    index = other := by
  have perm : index.entries.Perm other.entries := by
    apply (List.perm_ext_iff_of_nodup index.nodup_names.of_map other.nodup_names.of_map).mpr
    intro entry
    rw [mem_entries_iff, mem_entries_iff, same]
  have entries : index.entries = other.entries := by
    apply perm.eq_of_pairwise _ index.ordered other.ordered
    intro first second _ _ before after
    exact absurd (String.lt_trans before after) (String.lt_irrefl _)
  obtain ⟨indexEntries, indexOrdered⟩ := index
  subst entries
  rfl

end NameIndex

namespace Indexable
variable {events others : List EventLayout}

theorem find?_perm {β : Type} [BEq β] [LawfulBEq β] {key : EventLayout → β}
    (distinct : (events.map key).Nodup) (perm : events.Perm others) (k : β) :
    events.find? (key · == k) = others.find? (key · == k) := by
  apply Option.ext
  intro event
  rw [find?_eq_some_iff distinct, find?_eq_some_iff ((perm.map key).nodup_iff.mp distinct),
    perm.mem_iff]

/-- A table does not depend on the order in which its events are written. -/
theorem ofEvents_perm (fit : Indexable events) (perm : events.Perm others)
    (header : List ByteSpan) : Table.ofEvents events header = Table.ofEvents others header := by
  have otherIds := (perm.map (·.id)).nodup_iff.mp fit.ids
  have otherNames := (perm.map (·.name)).nodup_iff.mp fit.names
  have largest : Table.largestIdOf events = Table.largestIdOf others :=
    Nat.le_antisymm (Table.largestIdOf_le_of_subset perm.subset)
      (Table.largestIdOf_le_of_subset perm.symm.subset)
  have slots : (Table.ofEvents events header).slots = (Table.ofEvents others header).slots := by
    apply Array.ext_getElem?
    intro slot
    rw [Table.ofEvents, Table.ofEvents, Table.slots_foldl_put fit.ids,
      Table.slots_foldl_put otherIds, largest, find?_perm fit.nodup_toNat perm]
  have names : (Table.ofEvents events header).names = (Table.ofEvents others header).names := by
    apply NameIndex.ext_get?
    intro name
    rw [Table.ofEvents, Table.ofEvents, Table.get?_names_foldl_put fit.names,
      Table.get?_names_foldl_put otherNames, largest, find?_perm fit.names perm]
  have headers : (Table.ofEvents events header).header = (Table.ofEvents others header).header := by
    rw [Table.header_ofEvents, Table.header_ofEvents]
  cases made : Table.ofEvents events header
  cases otherMade : Table.ofEvents others header
  rw [made, otherMade] at slots names headers
  rw [Table.mk.injEq]
  exact ⟨slots, names, headers⟩

end Indexable

end TraceLayout
