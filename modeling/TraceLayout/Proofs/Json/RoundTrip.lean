import TraceLayout.Json.Records
import TraceLayout.Proofs.Json.Variants
import TraceLayout.Proofs.Layout.DenseTable
import TraceLayout.Proofs.Text.OsText

/-! Decoding undoes encoding. What a record is encoded to may be given another order of keys and
further keys at every depth, and it still decodes to the record. -/
namespace TraceLayout
open Json

/-- Every variant of the encoding of a value decodes to the value, in a place with this room. -/
class JsonForm.ReadsBack (adds : Json → Prop) (room : Option Nat) (α : Type) [JsonForm α] :
    Prop where
  decodeIn?_eq (value : α) (json : Json) :
    Json.Variant adds (JsonForm.encode value) json → JsonForm.decodeIn? room json = some value

/-- A name that stands for one of some values is read as that value. -/
theorem Json.named?_eq_some {α : Type} {names : α → String} {values : List α}
    (distinct : (values.map names).Nodup) {value : α} (listed : value ∈ values) :
    named? names values (.string (names value)) = some value :=
  (Indexable.find?_eq_some_iff distinct).mpr ⟨listed, rfl⟩

theorem Width.mem_all (width : Width) : width ∈ all := by
  cases width <;> decide

theorem KernelType.mem_all (type : KernelType) : type ∈ all := by
  rcases type with ⟨width, signed⟩ | _
  · cases width <;> cases signed <;> decide
  all_goals decide

theorem ProtoType.mem_all (type : ProtoType) : type ∈ all := by
  cases type <;> decide

section Forms
variable {adds : Json → Prop} {room : Option Nat} {α : Type} [JsonForm α]

open JsonForm

instance : ReadsBack adds room String where
  decodeIn?_eq value json variant := by
    cases variant
    rfl

instance : ReadsBack adds room Bool where
  decodeIn?_eq value json variant := by
    cases variant
    rfl

instance : ReadsBack adds room UInt16 where
  decodeIn?_eq value json variant := by
    cases variant
    exact dif_pos value.toNat_lt

instance : ReadsBack adds room UInt32 where
  decodeIn?_eq value json variant := by
    cases variant
    exact dif_pos value.toNat_lt

instance [ReadsBack adds (room.map (· - 1)) α] : ReadsBack adds room (List α) where
  decodeIn?_eq values json variant := by
    obtain ⟨varied, rfl, related⟩ : ∃ varied, json = .array varied ∧
        List.Forall₂ (Json.Variant adds) (values.map encode) varied := by
      cases variant with
      | same => exact ⟨_, rfl, List.forall₂_same.mpr fun item _ => .same item⟩
      | array related => exact ⟨_, rfl, related⟩
    change varied.mapM (decodeIn? (room.map (· - 1))) = some values
    clear variant
    induction values generalizing varied with
    | nil =>
      cases related
      rfl
    | cons value values ih =>
      cases related with
      | cons first rest =>
        rw [List.mapM_cons, ReadsBack.decodeIn?_eq value _ first, ih _ rest]
        rfl

/-- What is never encoded to null can be left out. -/
theorem JsonForm.ReadsBack.option [ReadsBack adds room α]
    (written : ∀ value : α, encode value ≠ .null) : ReadsBack adds room (Option α) where
  decodeIn?_eq value? json variant := by
    cases value? with
    | none =>
      cases variant
      rfl
    | some value =>
      have decoded : decodeIn? room json = some value := ReadsBack.decodeIn?_eq value json variant
      have given : json ≠ .null := by
        rintro rfl
        generalize encoded : encode (some value) = other at variant
        cases variant
        exact written value encoded
      have own : (decodeIn? room json : Option (Option α)) = (decodeIn? room json).map some := by
        cases json with
        | null => exact absurd rfl given
        | bool _ | natural _ | number _ | string _ | array _ | object _ | unreadable => rfl
      rw [own, decoded, Option.map_some]

instance : ReadsBack adds room Width where
  decodeIn?_eq width json variant := by
    cases variant
    exact named?_eq_some (by decide) width.mem_all

instance : ReadsBack adds room KernelType where
  decodeIn?_eq type json variant := by
    cases variant
    exact named?_eq_some (by decide +kernel) type.mem_all

instance : ReadsBack adds room ProtoType where
  decodeIn?_eq type json variant := by
    cases variant
    exact named?_eq_some (by decide +kernel) type.mem_all

instance : ReadsBack adds room (Option String) := .option fun _ => Json.noConfusion

instance : ReadsBack adds room (Option KernelType) := .option fun _ => Json.noConfusion

/-- A text of the operating system is read back if it has a form. -/
theorem JsonForm.decodeIn?_osText {os? : Option OsText}
    (isText : ∀ os ∈ os?, ∃ text : String, os = text) {json : Json}
    (variant : Json.Variant adds (encode os?) json) : decodeIn? room json = some os? := by
  cases os? with
  | none =>
    cases variant
    rfl
  | some os =>
    obtain ⟨text, rfl⟩ := isText os rfl
    have form : encode (some (OsText.ofString text)) = .string text := by simp [encode]
    rw [form] at variant
    cases variant
    rfl

/-- A key of a record is decoded to what was encoded under it. -/
theorem Json.Variant.Covers.required? {members varied : List (String × Json)}
    (covers : Json.Variant.Covers adds members varied) [ReadsBack adds (room.map (· - 1)) α]
    {key : String} {value : α} (held : (key, encode value) ∈ members) :
    Json.required? room varied key = some value := by
  obtain ⟨other, given, variant⟩ := covers.holds key _ held
  rw [Json.required?, given]
  exact ReadsBack.decodeIn?_eq value other variant

theorem Json.Variant.Covers.optional?_of_reads {members varied : List (String × Json)}
    (covers : Json.Variant.Covers adds members varied) {key : String} {value : α}
    (held : (key, encode value) ∈ members) (default : α)
    (reads : ∀ json, Json.Variant adds (encode value) json →
      decodeIn? (room.map (· - 1)) json = some value) :
    Json.optional? room varied key default = some value := by
  obtain ⟨other, given, variant⟩ := covers.holds key _ held
  rw [Json.optional?, given]
  exact reads other variant

theorem Json.Variant.Covers.optional? {members varied : List (String × Json)}
    (covers : Json.Variant.Covers adds members varied) [ReadsBack adds (room.map (· - 1)) α]
    {key : String} {value : α} (held : (key, encode value) ∈ members) (default : α) :
    Json.optional? room varied key default = some value :=
  covers.optional?_of_reads held default (ReadsBack.decodeIn?_eq value)

end Forms

section Records
variable {adds : Json → Prop} {room : Option Nat}

instance : JsonForm.ReadsBack adds room DeclaredField where
  decodeIn?_eq field json variant := by
    obtain ⟨varied, rfl, covers⟩ := variant.covers (by simp)
    have name : required? room varied "ftrace_name" = some field.name := covers.required? (by simp)
    have number : required? room varied "proto_field_id" = some field.number :=
      covers.required? (by simp)
    have type : required? room varied "proto_field_type" = some field.type :=
      covers.required? (by simp)
    simp [JsonForm.decodeIn?, name, number, type]

instance : JsonForm.ReadsBack adds room DeclaredEvent where
  decodeIn?_eq event json variant := by
    obtain ⟨varied, rfl, covers⟩ := variant.covers (by simp)
    have name : required? room varied "name" = some event.name := covers.required? (by simp)
    have group : required? room varied "group" = some event.group := covers.required? (by simp)
    have number : required? room varied "proto_field_id" = some event.number :=
      covers.required? (by simp)
    have fields : required? room varied "fields" = some event.fields := covers.required? (by simp)
    simp [JsonForm.decodeIn?, name, group, number, fields]

instance : JsonForm.ReadsBack adds room KernelField where
  decodeIn?_eq field json variant := by
    obtain ⟨varied, rfl, covers⟩ := variant.covers (by simp)
    have declaration : required? room varied "type_and_name" = some field.declaration :=
      covers.required? (by simp)
    have offset : required? room varied "offset" = some field.offset := covers.required? (by simp)
    have size : required? room varied "size" = some field.size := covers.required? (by simp)
    have signed : required? room varied "is_signed" = some field.signed :=
      covers.required? (by simp)
    have type? : optional? room varied "ftrace_type" none = some field.type? :=
      covers.optional? (by simp) _
    simp [JsonForm.decodeIn?, declaration, offset, size, signed, type?]

instance : JsonForm.ReadsBack adds room KernelFormat where
  decodeIn?_eq format json variant := by
    obtain ⟨varied, rfl, covers⟩ := variant.covers (by simp)
    have name : required? room varied "name" = some format.name := covers.required? (by simp)
    have id : required? room varied "id" = some format.id := covers.required? (by simp)
    have fields : required? room varied "fields" = some format.fields := covers.required? (by simp)
    have header : required? room varied "common_fields" = some format.header :=
      covers.required? (by simp)
    simp [JsonForm.decodeIn?, name, id, fields, header]

instance : JsonForm.ReadsBack adds room ByteSpan where
  decodeIn?_eq span json variant := by
    obtain ⟨varied, rfl, covers⟩ := variant.covers (by simp)
    have offset : required? room varied "ftrace_offset" = some span.offset :=
      covers.required? (by simp)
    have size : required? room varied "ftrace_size" = some span.size := covers.required? (by simp)
    simp [JsonForm.decodeIn?, offset, size]

/-- The root is not set, or UTF-8. -/
def Settings.HasTextRoot (settings : Settings) : Prop :=
  ∀ root ∈ settings.root?, ∃ text : String, root = text

theorem Settings.decodeIn?_eq {settings : Settings} (isText : settings.HasTextRoot) (json : Json)
    (variant : Json.Variant adds (JsonForm.encode settings) json) :
    JsonForm.decodeIn? room json = some settings := by
  obtain ⟨varied, rfl, covers⟩ := variant.covers (by simp)
  have root? : optional? room varied "tracefs_root" none = some settings.root? :=
    covers.optional?_of_reads (by simp) _ fun _ => JsonForm.decodeIn?_osText isText
  have filters : optional? room varied "events" [] = some settings.filters :=
    covers.optional? (by simp) _
  have verifyHeaders :
      optional? room varied "verify_common_fields" true = some settings.verifyHeaders :=
    covers.optional? (by simp) _
  simp [JsonForm.decodeIn?, root?, filters, verifyHeaders]

/-- A conversion is kept as a whole before it is decoded, so all that is added to it has to be
something that can be kept. -/
theorem Conversion.readsBack (within : room ≠ some 0)
    (kept : ∀ json, adds json → canKeep (room.map (· - 1)) json = true) :
    JsonForm.ReadsBack adds room Conversion where
  decodeIn?_eq conversion json variant := by
    obtain ⟨varied, rfl, covers⟩ := variant.covers (by cases conversion <;> simp)
    have keeps : canKeep room (.object varied) = true := by
      refine canKeep_object_iff.mpr ⟨within, ?_⟩
      rintro ⟨key, other⟩ held
      rcases covers.others _ held with added | ⟨value, own, same⟩
      · exact kept _ added
      · obtain ⟨text, rfl⟩ : ∃ text, value = .string text := by
          cases conversion with
          | zeroExtend source target | signExtend source target =>
            simp only [JsonForm.encode, List.mem_cons, Prod.mk.injEq, List.not_mem_nil,
              or_false] at own
            rcases own with ⟨-, rfl⟩ | ⟨-, rfl⟩ | ⟨-, rfl⟩ <;> exact ⟨_, rfl⟩
          | bool | charArray | charRun | dataLoc =>
            exact ⟨_, congrArg Prod.snd (List.mem_singleton.mp own)⟩
        cases same
        rfl
    have kind : required? room varied "kind" = some conversion.kind :=
      covers.required? (by simp [JsonForm.encode])
    cases conversion with
    | zeroExtend source target | signExtend source target =>
      have narrow : required? room varied "from" = some source := covers.required? (by simp)
      have wide : required? room varied "to" = some target := covers.required? (by simp)
      simp [JsonForm.decodeIn?, keeps, kind, narrow, wide, Conversion.kind]
    | bool | charArray | charRun | dataLoc =>
      simp [JsonForm.decodeIn?, keeps, kind, Conversion.kind]

instance [JsonForm.ReadsBack adds (room.map (· - 1)) Conversion] :
    JsonForm.ReadsBack adds room FieldLayout where
  decodeIn?_eq field json variant := by
    obtain ⟨varied, rfl, covers⟩ := variant.covers (by simp)
    have name : required? room varied "ftrace_name" = some field.name := covers.required? (by simp)
    have number : required? room varied "proto_field_id" = some field.number :=
      covers.required? (by simp)
    have proto : required? room varied "proto_field_type" = some field.proto :=
      covers.required? (by simp)
    have offset : required? room varied "ftrace_offset" = some field.offset :=
      covers.required? (by simp)
    have size : required? room varied "ftrace_size" = some field.size := covers.required? (by simp)
    have kernel : required? room varied "ftrace_type" = some field.kernel :=
      covers.required? (by simp)
    have conversion : required? room varied "strategy" = some field.conversion :=
      covers.required? (by simp)
    simp [JsonForm.decodeIn?, name, number, proto, offset, size, kernel, conversion]

instance [JsonForm.ReadsBack adds (room.map (· - 1)) (List FieldLayout)] :
    JsonForm.ReadsBack adds room EventLayout where
  decodeIn?_eq event json variant := by
    obtain ⟨varied, rfl, covers⟩ := variant.covers (by simp)
    have name : required? room varied "name" = some event.name := covers.required? (by simp)
    have group : required? room varied "group" = some event.group := covers.required? (by simp)
    have number : required? room varied "proto_field_id" = some event.number :=
      covers.required? (by simp)
    have id : required? room varied "ftrace_event_id" = some event.id := covers.required? (by simp)
    have fields : required? room varied "fields" = some event.fields := covers.required? (by simp)
    have size : required? room varied "size" = some event.size := covers.required? (by simp)
    simp [JsonForm.decodeIn?, name, group, number, id, fields, size]

end Records

/-- How deep the values may nest that are added to an object in a text. At most four arrays and
objects lie around them: an event, its fields, a field and its conversion. -/
def Json.deepestAdded : Nat := deepest - 4

/-- Some values of a type survive being encoded, whatever order their keys are put into and
whichever other keys are added. What is added has to be a value: its strings are texts, its numbers
are doubles, and in a text it does not nest too deep. -/
structure JsonForm.LosslessOn {α : Type} [JsonForm α] (has : α → Prop) : Prop where
  ofValue? : ∀ value, has value → ∀ json,
    Json.Variant (canKeep none · = true) (JsonForm.encode value) json →
      JsonForm.ofValue? json = some value
  ofText? : ∀ value, has value → ∀ json,
    Json.Variant (canKeep (some deepestAdded) · = true) (JsonForm.encode value) json →
      JsonForm.decode? json = some value

/-- All values of a type survive being encoded. -/
def JsonForm.Lossless (α : Type) [JsonForm α] : Prop := JsonForm.LosslessOn fun _ : α => True

namespace Conversion

theorem readsBack_none : JsonForm.ReadsBack (canKeep none · = true) none Conversion :=
  readsBack (by simp) fun _ kept => kept

theorem readsBack_some {least room : Nat} (le : least < room) :
    JsonForm.ReadsBack (canKeep (some least) · = true) (some room) Conversion :=
  readsBack (by simp; omega) fun json kept => canKeep_mono (Nat.le_sub_one_of_lt le) json kept

end Conversion

theorem JsonForm.Lossless.of_readsBack {α : Type} [JsonForm α]
    [value : JsonForm.ReadsBack (canKeep none · = true) none α]
    [text : JsonForm.ReadsBack (canKeep (some deepestAdded) · = true) (some deepest) α] :
    JsonForm.Lossless α where
  ofValue? other _ := value.decodeIn?_eq other
  ofText? other _ := text.decodeIn?_eq other

theorem Settings.losslessOn : JsonForm.LosslessOn Settings.HasTextRoot where
  ofValue? _ := Settings.decodeIn?_eq
  ofText? _ := Settings.decodeIn?_eq

theorem Conversion.lossless : JsonForm.Lossless Conversion :=
  have := Conversion.readsBack_none
  have : JsonForm.ReadsBack (canKeep (some deepestAdded) · = true) (some deepest) Conversion :=
    Conversion.readsBack_some (by decide)
  .of_readsBack

theorem FieldLayout.lossless : JsonForm.Lossless FieldLayout :=
  have : JsonForm.ReadsBack _ (none.map (· - 1)) Conversion := Conversion.readsBack_none
  have : JsonForm.ReadsBack (canKeep (some deepestAdded) · = true)
      ((some deepest).map (· - 1)) Conversion := Conversion.readsBack_some (by decide)
  .of_readsBack

theorem EventLayout.lossless : JsonForm.Lossless EventLayout :=
  have : JsonForm.ReadsBack _ (((none.map (· - 1)).map (· - 1)).map (· - 1)) Conversion :=
    Conversion.readsBack_none
  have : JsonForm.ReadsBack (canKeep (some deepestAdded) · = true)
      ((((some deepest).map (· - 1)).map (· - 1)).map (· - 1)) Conversion :=
    Conversion.readsBack_some (by decide)
  .of_readsBack

/-- Two values are equal if the encoding of one varies that of the other. -/
theorem JsonForm.ReadsBack.eq_of_variant {α : Type} [JsonForm α] {adds : Json → Prop}
    {room : Option Nat} (reads : JsonForm.ReadsBack adds room α) {value other : α}
    (variant : Json.Variant adds (JsonForm.encode value) (JsonForm.encode other)) :
    value = other := by
  have read := reads.decodeIn?_eq value _ variant
  have own := reads.decodeIn?_eq other _ (.same _)
  exact Option.some.inj (read.symm.trans own)

theorem NameIndex.mem_toJson {index : NameIndex} {name : String} {value : Json} :
    (name, value) ∈ (index.entries.map fun (name, slot) => (name, Json.natural slot)) ↔
      ∃ slot, index.get? name = some slot ∧ value = .natural slot := by
  rw [List.mem_map]
  constructor
  · rintro ⟨entry, member, rfl, rfl⟩
    exact ⟨entry.2, mem_entries_iff.mp member, rfl⟩
  · rintro ⟨slot, given, rfl⟩
    exact ⟨(name, slot), mem_entries_iff.mpr given, rfl⟩

/-- Objects that give the names the same slots are those of the same index. -/
theorem NameIndex.eq_of_variant {index other : NameIndex}
    (variant : Json.Variant (fun _ => False) index.toJson other.toJson) : index = other := by
  have distinct :
      ((index.entries.map fun (name, slot) => (name, Json.natural slot)).map (·.1)).Nodup := by
    simpa [List.map_map, Function.comp_def] using index.nodup_names
  obtain ⟨varied, same, covers⟩ := variant.covers distinct
  obtain rfl := Json.object.inj same
  apply NameIndex.ext_get?
  intro name
  ext slot
  constructor
  · intro given
    obtain ⟨value, only, kept⟩ := covers.holds name _ (mem_toJson.mpr ⟨slot, given, rfl⟩)
    cases kept
    have held : Json.natural slot ∈ valuesOf name _ := only ▸ List.mem_singleton_self _
    obtain ⟨again, found, eq⟩ := mem_toJson.mp (mem_valuesOf_iff.mp held)
    exact found.trans (congrArg some (Json.natural.inj eq).symm)
  · intro given
    rcases covers.others _ (mem_toJson.mpr ⟨slot, given, rfl⟩) with no | ⟨value, held, kept⟩
    · exact no.elim
    · obtain ⟨again, found, rfl⟩ := mem_toJson.mp held
      cases kept
      exact found

namespace Table

/-- Without additions the room does not matter, as long as there is enough. -/
theorem readsBack_slots : JsonForm.ReadsBack (fun _ => False) none (List EventLayout) :=
  have : JsonForm.ReadsBack (fun _ => False)
      ((((none.map (· - 1)).map (· - 1)).map (· - 1)).map (· - 1)) Conversion :=
    Conversion.readsBack (by simp) fun _ no => no.elim
  inferInstance

theorem eq_of_variant {table other : Table}
    (variant : Json.Variant (fun _ => False) table.toJson other.toJson) : table = other := by
  obtain ⟨varied, same, covers⟩ := variant.covers (by simp)
  obtain rfl := Json.object.inj same
  have slots : table.slots.toList = other.slots.toList :=
    readsBack_slots.eq_of_variant
      (covers.variant (show ("events", _) ∈ _ by simp) (by simp))
  have names : table.names = other.names :=
    NameIndex.eq_of_variant (covers.variant (show ("name_to_event", _) ∈ _ by simp) (by simp))
  have reads : JsonForm.ReadsBack (fun _ => False) none (List ByteSpan) := inferInstance
  have header : table.header = other.header :=
    reads.eq_of_variant (covers.variant (show ("common_fields", _) ∈ _ by simp) (by simp))
  obtain ⟨slots', names', header'⟩ := table
  rw [Table.mk.injEq]
  exact ⟨Array.toList_inj.mp slots, names, header⟩

end Table

/-- All records survive their encoding, settings if their root is UTF-8, and a table is known by its
encoding, in which the order of keys says nothing. -/
theorem Json.decoding_undoes_encoding :
    (JsonForm.Lossless DeclaredEvent ∧ JsonForm.Lossless DeclaredField ∧
      JsonForm.Lossless EventLayout ∧ JsonForm.Lossless FieldLayout ∧
      JsonForm.Lossless ByteSpan ∧ JsonForm.Lossless KernelFormat ∧
      JsonForm.Lossless KernelField ∧ JsonForm.Lossless Conversion ∧
      JsonForm.LosslessOn Settings.HasTextRoot) ∧
    ∀ table other : Table, Json.Variant (fun _ => False) table.toJson other.toJson →
      table = other :=
  ⟨⟨.of_readsBack, .of_readsBack, EventLayout.lossless, FieldLayout.lossless, .of_readsBack,
    .of_readsBack, .of_readsBack, Conversion.lossless, Settings.losslessOn⟩,
    fun _ _ => Table.eq_of_variant⟩

def FieldLayout.sample : FieldLayout :=
  ⟨"cpu", 2, .uint64, 8, 4, .integer ⟨.w32, false⟩, .zeroExtend .w32 .w64⟩

/-- The sample with its keys and those of its conversion from last to first, and a further key in
each of the two objects. -/
def FieldLayout.sampleVariant : Json :=
  .object [
    ("comment", .null),
    ("strategy", .object [("scale", .array [.natural 1]), ("to", .string "W64"),
      ("from", .string "W32"), ("kind", .string "uint")]),
    ("ftrace_type", .string "uint32"), ("ftrace_size", .natural 4), ("ftrace_offset", .natural 8),
    ("proto_field_type", .string "uint64"), ("proto_field_id", .natural 2),
    ("ftrace_name", .string "cpu")]

theorem FieldLayout.variant_sampleVariant {adds : Json → Prop} (null : adds .null)
    (array : adds (.array [.natural 1])) :
    Json.Variant adds (JsonForm.encode FieldLayout.sample) FieldLayout.sampleVariant := by
  let widths := [("kind", Json.string "uint"), ("from", .string "W32"), ("to", .string "W64")]
  let scale := [("scale", Json.array [.natural 1])]
  have conversion : Json.Variant adds (.object widths) (.object (widths ++ scale).reverse) :=
    @Json.Variant.object adds widths widths scale _ rfl
      (List.forall₂_same.mpr fun value _ => .same value) (by simp [widths, scale, array])
      (List.reverse_perm _)
  let field (strategy : Json) := [("ftrace_name", Json.string "cpu"),
    ("proto_field_id", .natural 2), ("proto_field_type", .string "uint64"),
    ("ftrace_offset", .natural 8), ("ftrace_size", .natural 4), ("ftrace_type", .string "uint32"),
    ("strategy", strategy)]
  let varied := field (.object (widths ++ scale).reverse)
  let comment := [("comment", Json.null)]
  exact @Json.Variant.object adds (field (.object widths)) varied comment _ rfl
    (.cons (.same _) (.cons (.same _) (.cons (.same _) (.cons (.same _) (.cons (.same _)
      (.cons (.same _) (.cons conversion .nil)))))))
    (by simp [field, comment, null]) (List.reverse_perm (varied ++ comment))

theorem Json.decoding_undoes_encoding_sample :
    JsonForm.ofValue? FieldLayout.sampleVariant = some FieldLayout.sample ∧
      JsonForm.decode? FieldLayout.sampleVariant = some FieldLayout.sample :=
  have lossless := Json.decoding_undoes_encoding.1.2.2.2.1
  ⟨lossless.ofValue? _ trivial _ (FieldLayout.variant_sampleVariant (by decide) (by decide)),
    lossless.ofText? _ trivial _ (FieldLayout.variant_sampleVariant (by decide) (by decide))⟩

end TraceLayout
