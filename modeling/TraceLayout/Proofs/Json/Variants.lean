import Mathlib.Data.List.Forall2
import TraceLayout.Json.Bounds

/-! Values that say the same to a reader of records. The members of an object may stand in any
order, and there may be others beside them: what counts is the look-up of the object's own keys. -/
namespace TraceLayout.Json

/-- A value in which objects have been given another order and further members. What is added to an
object has keys that the object does not have, and values that satisfy `adds`. -/
inductive Variant (adds : Json → Prop) : Json → Json → Prop
  | same (value : Json) : Variant adds value value
  | array {items varied : List Json} :
      List.Forall₂ (Variant adds) items varied → Variant adds (.array items) (.array varied)
  | object {members varied added permuted : List (String × Json)} :
      members.map (·.1) = varied.map (·.1) →
      List.Forall₂ (Variant adds) (members.map (·.2)) (varied.map (·.2)) →
      (∀ member ∈ added, member.1 ∉ members.map (·.1) ∧ adds member.2) →
      permuted.Perm (varied ++ added) → Variant adds (.object members) (.object permuted)

section ValuesOf
variable {key : String} {value : Json} {members : List (String × Json)}

theorem valuesOf_cons (member : String × Json) :
    valuesOf key (member :: members) =
      if member.1 = key then member.2 :: valuesOf key members else valuesOf key members := by
  by_cases own : member.1 = key <;> simp [valuesOf, own]

theorem valuesOf_append (more : List (String × Json)) :
    valuesOf key (members ++ more) = valuesOf key members ++ valuesOf key more := by
  simp [valuesOf]

theorem mem_valuesOf_iff : value ∈ valuesOf key members ↔ (key, value) ∈ members := by
  simp [valuesOf]

theorem valuesOf_eq_nil (absent : key ∉ members.map (·.1)) : valuesOf key members = [] := by
  rw [List.eq_nil_iff_forall_not_mem]
  intro value held
  exact absent (List.mem_map_of_mem (mem_valuesOf_iff.mp held))

/-- In an object without repeated keys a key has the value that stands with it. -/
theorem valuesOf_eq_singleton (distinct : (members.map (·.1)).Nodup)
    (held : (key, value) ∈ members) : valuesOf key members = [value] := by
  induction members with
  | nil => contradiction
  | cons member members ih =>
    obtain ⟨fresh, distinct⟩ := List.nodup_cons.mp distinct
    rw [valuesOf_cons]
    rcases List.mem_cons.mp held with rfl | later
    · rw [if_pos rfl, valuesOf_eq_nil fresh]
    · have other : member.1 ≠ key := by
        rintro rfl
        exact fresh (List.mem_map.mpr ⟨_, later, rfl⟩)
      rw [if_neg other, ih distinct later]

/-- The values of two objects with the same keys are matched key by key. -/
theorem exists_of_mem {R : Json → Json → Prop} {varied : List (String × Json)}
    (keys : members.map (·.1) = varied.map (·.1))
    (values : List.Forall₂ R (members.map (·.2)) (varied.map (·.2)))
    (held : (key, value) ∈ members) : ∃ other, (key, other) ∈ varied ∧ R value other := by
  induction members generalizing varied with
  | nil => contradiction
  | cons member members ih =>
    cases varied with
    | nil => contradiction
    | cons first rest =>
      obtain ⟨sameKey, keys⟩ := List.cons.inj keys
      obtain ⟨matched, values⟩ := List.forall₂_cons.mp values
      rcases List.mem_cons.mp held with rfl | later
      · exact ⟨first.2, by simp [show key = first.1 from sameKey], matched⟩
      · obtain ⟨other, there, related⟩ := ih keys values later
        exact ⟨other, List.mem_cons_of_mem _ there, related⟩

end ValuesOf

section CanKeep
variable {room : Option Nat}

theorem canKeepItems_iff {items : List Json} :
    canKeepItems room items = true ↔ ∀ item ∈ items, canKeep room item = true := by
  induction items with
  | nil => simp [canKeepItems]
  | cons item items ih => simp [canKeepItems, ih]

theorem canKeepMembers_iff {members : List (String × Json)} :
    canKeepMembers room members = true ↔ ∀ member ∈ members, canKeep room member.2 = true := by
  induction members with
  | nil => simp [canKeepMembers]
  | cons member members ih => simp [canKeepMembers, ih]

theorem canKeep_object_iff {members : List (String × Json)} :
    canKeep room (.object members) = true ↔
      room ≠ some 0 ∧ ∀ member ∈ members, canKeep (room.map (· - 1)) member.2 = true := by
  rw [canKeep, Bool.and_eq_true, decide_eq_true_iff, canKeepMembers_iff]

theorem canKeep_array_iff {items : List Json} :
    canKeep room (.array items) = true ↔
      room ≠ some 0 ∧ ∀ item ∈ items, canKeep (room.map (· - 1)) item = true := by
  rw [canKeep, Bool.and_eq_true, decide_eq_true_iff, canKeepItems_iff]

/-- More room does no harm. -/
theorem canKeep_mono {least most : Nat} (le : least ≤ most) :
    (json : Json) → canKeep (some least) json = true → canKeep (some most) json = true
  | .null, _ | .bool _, _ | .string _, _ => rfl
  | .natural _, kept | .number _, kept => by simpa [canKeep] using kept
  | .unreadable, kept => by simp [canKeep] at kept
  | .array items, kept => by
    obtain ⟨within, kept⟩ := canKeep_array_iff.mp kept
    have within : least ≠ 0 := by simpa using within
    refine canKeep_array_iff.mpr ⟨by simp; omega, fun item member => ?_⟩
    exact canKeep_mono (Nat.sub_le_sub_right le 1) item (kept item member)
  | .object members, kept => by
    obtain ⟨within, kept⟩ := canKeep_object_iff.mp kept
    have within : least ≠ 0 := by simpa using within
    refine canKeep_object_iff.mpr ⟨by simp; omega, fun member held => ?_⟩
    have smaller : sizeOf member.2 < 1 + sizeOf members := by
      have := List.sizeOf_lt_of_mem held
      cases member
      simp_all
      omega
    exact canKeep_mono (Nat.sub_le_sub_right le 1) member.2 (kept member held)

end CanKeep

namespace Variant
variable {adds : Json → Prop} {value json : Json} {members : List (String × Json)}

/-- What an object has to hold to be read as one with these members. -/
structure Covers (adds : Json → Prop) (members varied : List (String × Json)) : Prop where
  holds : ∀ key value, (key, value) ∈ members →
    ∃ other, valuesOf key varied = [other] ∧ Variant adds value other
  others : ∀ member ∈ varied, adds member.2 ∨
    ∃ value, (member.1, value) ∈ members ∧ Variant adds value member.2

/-- Whatever stands with a key varies what has to stand with it. -/
theorem Covers.variant {varied : List (String × Json)} (covers : Covers adds members varied)
    {key : String} {other : Json} (wanted : (key, value) ∈ members)
    (given : (key, other) ∈ varied) : Variant adds value other := by
  obtain ⟨only, alone, variant⟩ := covers.holds key value wanted
  have same : other ∈ [only] := alone ▸ mem_valuesOf_iff.mpr given
  exact List.mem_singleton.mp same ▸ variant

theorem covers_self (distinct : (members.map (·.1)).Nodup) : Covers adds members members where
  holds := fun _ value held => ⟨value, valuesOf_eq_singleton distinct held, .same value⟩
  others := fun member held => .inr ⟨member.2, held, .same member.2⟩

theorem covers (distinct : (members.map (·.1)).Nodup)
    (variant : Variant adds (.object members) json) :
    ∃ varied, json = .object varied ∧ Covers adds members varied := by
  cases variant with
  | same => exact ⟨members, rfl, covers_self distinct⟩
  | @object _ varied added permuted keys values fresh perm =>
    refine ⟨permuted, rfl, ?_, ?_⟩
    · intro key value held
      obtain ⟨other, there, variant⟩ := exists_of_mem keys values held
      have notAdded : key ∉ added.map (·.1) := by
        rintro again
        obtain ⟨member, more, rfl⟩ := List.mem_map.mp again
        exact (fresh member more).1 (List.mem_map.mpr ⟨_, held, rfl⟩)
      have only : valuesOf key (varied ++ added) = [other] := by
        rw [valuesOf_append, valuesOf_eq_nil notAdded, List.append_nil,
          valuesOf_eq_singleton (keys ▸ distinct) there]
      have sameValues : (valuesOf key permuted).Perm (valuesOf key (varied ++ added)) :=
        (perm.filter _).map _
      exact ⟨other, List.perm_singleton.mp (only ▸ sameValues), variant⟩
    · intro member held
      rcases List.mem_append.mp (perm.mem_iff.mp held) with inVaried | inAdded
      · exact .inr (exists_of_mem keys.symm (List.Forall₂.flip values) inVaried)
      · exact .inl (fresh member inAdded).2

end Variant

end TraceLayout.Json
