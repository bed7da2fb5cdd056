import TraceLayout.Proofs.Kernel.Inference
import TraceLayout.Proofs.Layout.DenseIndex
import TraceLayout.Proofs.Wire.Lossless

/-! Every field that a table keeps lies inside the records of its event, and its bytes become the
protobuf value without loss. Where a field of integers is refused, some value would be lost. -/
namespace TraceLayout
open RecordBytes

/-- The kernel field that a name finds in the format of an event, and the description it has
there. -/
def FormatSource.Matches (source : FormatSource) (event : DeclaredEvent) (name : String)
    (kernel : KernelField) (description : List Char) : Prop :=
  ∃ text format, (source event.group event.name).text? = some text ∧ text ≠ "" ∧
    KernelFormat.parse text = .ok format ∧ format.fields.find? (·.name == name) = some kernel ∧
    KernelFormat.Describes text description kernel

namespace FieldLayout

def bytesIn (order : ByteOrder) (record : List UInt8) (field : FieldLayout) : List UInt8 :=
  order.lowFirst ((record.drop field.offset.toNat).take field.size.toNat)

/-- A field of `source` integers becomes `target` integers without loss: it is read inside every
record that is no shorter than `least`, and the bytes that it is extended to denote what it
denotes. -/
structure Widens (least : UInt16) (field : FieldLayout) (source target : IntShape) : Prop where
  kernel : field.kernel.intShape? = some source
  proto : field.proto.intShape? = some target
  bytes : source.width.bytes = field.size.toNat
  wider : source.width ≤ target.width
  inside : ∀ record : List UInt8, least.toNat ≤ record.length →
    field.offset.toNat + source.width.bytes ≤ record.length
  lossless : ∀ (order : ByteOrder) (record : List UInt8), least.toNat ≤ record.length →
    ∃ extended, field.conversion.extend? (field.bytesIn order record) = some extended ∧
      extended.length = target.width.bytes ∧
      integer target.signed extended = integer source.signed (field.bytesIn order record)

/-- A kept field agrees with its kernel field, and it is converted as that allows. -/
structure Follows (least : UInt16) (field : FieldLayout) (kernel : KernelField)
    (description : List Char) : Prop where
  offset : field.offset = kernel.offset
  size : field.size = kernel.size
  type : kernel.type? = some field.kernel
  widens : ∀ read made, field.conversion.widths? = some (read, made) →
    ∃ source target, source.width = read ∧ target.width = made ∧ field.Widens least source target
  /-- A sign is extended only where the line gives the field one. -/
  sign : ∀ read made, field.conversion = .signExtend read made →
    KernelField.isSigned (description.splitOn ';').tail = true
  bool : field.conversion = .bool → field.size = 1

end FieldLayout

/-- Some bytes of a kernel field denote an integer that the target cannot hold. -/
def KernelField.Loses (kernel : KernelField) (source target : IntShape) : Prop :=
  ∃ bytes : List UInt8, bytes.length = kernel.size.toNat ∧
    source.Holds (integer source.signed bytes) ∧ ¬ target.Holds (integer source.signed bytes)

section Outcomes
variable {format : KernelFormat} {declared : DeclaredField}

theorem FieldOutcome.find_kept {field : FieldLayout} (kept : find format declared = .kept field) :
    ∃ kernel, format.field? declared.name = some kernel ∧ kernel.type? = some field.kernel ∧
      Conversion.between? field.kernel field.proto = some field.conversion ∧
      field.name = declared.name ∧ field.number = declared.number ∧ field.proto = declared.type ∧
      field.offset = kernel.offset ∧ field.size = kernel.size ∧
      kernel.stop ≤ KernelFormat.lastByte := by
  unfold find at kept
  cases found : format.field? declared.name with
  | none => simp [found] at kept
  | some kernel =>
    cases read : kernel.type? with
    | none => simp [found, read] at kept
    | some type =>
      cases chosen : Conversion.between? type declared.type with
      | none => simp [found, read, chosen] at kept
      | some conversion =>
        simp only [found, read, chosen] at kept
        split at kept
        · contradiction
        · rename_i short
          obtain rfl := FieldOutcome.kept.inj kept
          exact ⟨kernel, rfl, read, chosen, rfl, rfl, rfl, rfl, rfl, Nat.le_of_not_lt short⟩

theorem FieldOutcome.find_unsupported {kernel : KernelField}
    (refused : find format declared = .unsupported kernel) :
    format.field? declared.name = some kernel ∧
      ∀ type, kernel.type? = some type → Conversion.between? type declared.type = none := by
  unfold find at refused
  cases found : format.field? declared.name with
  | none => simp [found] at refused
  | some other =>
    cases read : other.type? with
    | none =>
      simp only [found, read] at refused
      obtain rfl := FieldOutcome.unsupported.inj refused
      exact ⟨rfl, by simp [read]⟩
    | some type =>
      cases chosen : Conversion.between? type declared.type with
      | none =>
        simp only [found, read, chosen] at refused
        obtain rfl := FieldOutcome.unsupported.inj refused
        refine ⟨rfl, ?_⟩
        intro same reads
        rw [← Option.some.inj (read.symm.trans reads), chosen]
      | some conversion =>
        simp only [found, read, chosen] at refused
        split at refused <;> contradiction

end Outcomes

section Size
variable {event : DeclaredEvent} {format : KernelFormat} {header : List ByteSpan}

theorem Progress.mem_fields_layout {field : FieldLayout} :
    field ∈ (layout event format header).fields ↔
      ∃ declared ∈ event.fields, FieldOutcome.find format declared = .kept field := by
  simp only [layout, List.mem_filterMap]
  constructor
  · rintro ⟨declared, member, kept⟩
    refine ⟨declared, member, ?_⟩
    cases outcome : FieldOutcome.find format declared with
    | kept other => simpa [outcome, FieldOutcome.layout?] using kept
    | missing | unsupported _ | tooLong _ => simp [outcome, FieldOutcome.layout?] at kept
  · rintro ⟨declared, member, kept⟩
    exact ⟨declared, member, by rw [kept]; rfl⟩

theorem Progress.stop_le_of_mem_fields {field : FieldLayout}
    (member : field ∈ (layout event format header).fields) :
    field.stop ≤ KernelFormat.lastByte := by
  obtain ⟨declared, -, kept⟩ := mem_fields_layout.mp member
  obtain ⟨kernel, -, -, -, -, -, -, offset, size, short⟩ := FieldOutcome.find_kept kept
  rw [FieldLayout.stop, offset, size]
  exact short

theorem largestStop_le {stops : List Nat} {bound : Nat} (each : ∀ stop ∈ stops, stop ≤ bound) :
    largestStop stops ≤ bound := by
  by_cases none_ : stops = []
  · rw [none_]
    exact Nat.zero_le _
  · exact each _ (Table.foldl_max_mem none_)

/-- The size of a record is the largest stop of its fields and its header, which a record can
have. -/
theorem Progress.size_layout (bounded : ∀ span ∈ header, span.stop ≤ KernelFormat.lastByte) :
    (layout event format header).size.toNat =
      max (largestStop ((layout event format header).fields.map (·.stop)))
        (largestStop (header.map (·.stop))) := by
  have ownStops : largestStop ((layout event format header).fields.map (·.stop)) ≤
      KernelFormat.lastByte := by
    apply largestStop_le
    intro stop member
    obtain ⟨field, there, rfl⟩ := List.mem_map.mp member
    exact stop_le_of_mem_fields there
  have headerStops : largestStop (header.map (·.stop)) ≤ KernelFormat.lastByte := by
    apply largestStop_le
    intro stop member
    obtain ⟨span, there, rfl⟩ := List.mem_map.mp member
    exact bounded span there
  rw [KernelFormat.lastByte] at ownStops headerStops
  have fits := Nat.max_le.mpr ⟨ownStops, headerStops⟩
  exact UInt16.toNat_ofNat_of_lt' (Nat.lt_succ_of_le fits)

theorem Progress.stop_le_size (bounded : ∀ span ∈ header, span.stop ≤ KernelFormat.lastByte)
    {field : FieldLayout} (member : field ∈ (layout event format header).fields) :
    field.stop ≤ (layout event format header).size.toNat := by
  rw [size_layout bounded]
  exact Nat.le_trans (Table.le_foldl_max (List.mem_map_of_mem member)) (Nat.le_max_left _ _)

end Size

theorem FieldLayout.length_bytesIn {field : FieldLayout} {record : List UInt8}
    (inside : field.stop ≤ record.length) (order : ByteOrder) :
    (field.bytesIn order record).length = field.size.toNat := by
  unfold FieldLayout.stop at inside
  rw [bytesIn, ByteOrder.length_lowFirst, List.length_take, List.length_drop]
  omega

/-- A field that is found for a declared one follows its kernel field, in any record that it
fits. -/
theorem FieldOutcome.follows_of_kept {text : String} {format : KernelFormat}
    {declared : DeclaredField} {field : FieldLayout} {kernel : KernelField}
    {description : List Char} {least : UInt16} (kept : find format declared = .kept field)
    (found : format.field? declared.name = some kernel)
    (describes : KernelFormat.Describes text description kernel)
    (fits : field.stop ≤ least.toNat) : field.Follows least kernel description := by
  obtain ⟨other, same, type, chosen, -, -, -, offset, size, -⟩ := find_kept kept
  obtain rfl := Option.some.inj (found.symm.trans same)
  obtain ⟨signed, inferred⟩ := KernelField.ofSegments_ok describes.2
  have report := KernelType.fitsReport_of_infer (inferred.symm.trans type)
  refine ⟨offset, size, type, ?_, ?_, ?_⟩
  · intro read made isInteger
    obtain ⟨source, target, reads, holds, shapes⟩ := Conversion.shapes_of_between? chosen isInteger
    obtain ⟨widths, wider⟩ := Conversion.widths_of_ofShapes? shapes
    obtain ⟨rfl, rfl⟩ := Prod.mk.inj (Option.some.inj (widths.symm.trans isInteger))
    have bytes : source.width.bytes = field.size.toNat := size ▸ report.bytes source reads
    refine ⟨source, target, rfl, rfl, reads, holds, bytes, wider, ?_, ?_⟩
    · intro record long
      rw [bytes]
      exact Nat.le_trans fits long
    · intro order record long
      apply Conversion.extend_of_ofShapes? shapes
      rw [FieldLayout.length_bytesIn (Nat.le_trans fits long), bytes]
  · intro read made isSigned
    rw [isSigned] at chosen
    obtain ⟨source, target, reads, -, shapes⟩ := Conversion.shapes_of_between? chosen rfl
    rw [← signed]
    apply report.sign source reads
    rcases Conversion.ofShapes?_cases shapes with
      ⟨-, -, -, other⟩ | ⟨-, -, -, other⟩ | ⟨sign, -, -, -⟩
    · contradiction
    · contradiction
    · exact sign
  · intro isBool
    rw [isBool] at chosen
    have isBool := Conversion.bool_of_between? chosen
    have one := report.bytes ⟨.w8, false⟩ (by rw [isBool]; rfl)
    rw [size]
    exact UInt16.toNat_inj.mp one.symm

theorem FieldOutcome.loses_of_unsupported {text : String} {format : KernelFormat}
    {declared : DeclaredField} {kernel : KernelField} {description : List Char}
    (refused : find format declared = .unsupported kernel)
    (describes : KernelFormat.Describes text description kernel) {type : KernelType}
    {source target : IntShape} (read : kernel.type? = some type)
    (reads : type.intShape? = some source) (holds : declared.type.intShape? = some target) :
    kernel.Loses source target := by
  obtain ⟨-, none_⟩ := find_unsupported refused
  obtain ⟨-, inferred⟩ := KernelField.ofSegments_ok describes.2
  have report := KernelType.fitsReport_of_infer (inferred.symm.trans read)
  have noShape := Conversion.ofShapes?_of_between?_none reads holds (none_ type read)
  obtain ⟨bytes, length, lost⟩ := Conversion.exists_lost_of_ofShapes? noShape
  exact ⟨bytes, length.trans (report.bytes source reads), IntShape.holds_integer length, lost⟩

namespace Build
variable (source : FormatSource) (verify : Bool)

theorem stop_le_of_header? {declared : List DeclaredEvent} {shared : List ByteSpan}
    (captured : (resolveAll source verify declared).header? = some shared) :
    ∀ span ∈ shared, span.stop ≤ KernelFormat.lastByte := by
  rw [header?_resolveAll, Option.map_eq_some_iff] at captured
  obtain ⟨format, found, rfl⟩ := captured
  obtain ⟨event, -, read⟩ := List.exists_of_findSome?_eq_some found
  obtain ⟨text, -, -, parsed⟩ := FormatSource.parse_of_format? read
  intro span member
  obtain ⟨field, there, rfl⟩ := List.mem_map.mp member
  exact KernelFormat.stop_le_of_mem_header parsed there

theorem follows_of_mem {declared : List DeclaredEvent} {entry : EventLayout} {field : FieldLayout}
    (member : entry ∈ (resolveAll source verify declared).events) (own : field ∈ entry.fields) :
    ∃ event ∈ declared, ∃ wanted ∈ event.fields, ∃ kernel description,
      event.name = entry.name ∧ wanted.name = field.name ∧ wanted.type = field.proto ∧
      source.Matches event wanted.name kernel description ∧
      field.Follows entry.size kernel description := by
  obtain ⟨event, there, format, shared, read, captured, rfl⟩ :=
    mem_events_resolveAll source verify member
  obtain ⟨text, answer, written, parsed⟩ := FormatSource.parse_of_format? read
  obtain ⟨wanted, listed, kept⟩ := Progress.mem_fields_layout.mp own
  obtain ⟨kernel, found, -, -, name, -, proto, -, -, -⟩ := FieldOutcome.find_kept kept
  obtain ⟨description, describes⟩ :=
    KernelFormat.describes_of_mem_fields parsed (List.mem_of_find?_eq_some found)
  have fits := Progress.stop_le_size (stop_le_of_header? source verify captured) own
  exact ⟨event, there, wanted, listed, kernel, description, rfl, name.symm, proto.symm,
    ⟨text, format, answer, written, parsed, found, describes⟩,
    FieldOutcome.follows_of_kept kept found describes fits⟩

theorem loses_of_mem {declared : List DeclaredEvent} {event field : String}
    {kernel? : Option KernelType} {proto : ProtoType}
    (member : .fieldUnsupported event field kernel? proto ∈
      (resolveAll source verify declared).diagnostics) :
    ∃ owner ∈ declared, ∃ wanted ∈ owner.fields, ∃ kernel description,
      owner.name = event ∧ wanted.name = field ∧ wanted.type = proto ∧
      source.Matches owner field kernel description ∧ kernel.type? = kernel? ∧
      ∀ type shape target, kernel? = some type → type.intShape? = some shape →
        proto.intShape? = some target → kernel.Loses shape target := by
  obtain ⟨before, owner, after, shared?, rfl, made⟩ := mem_diagnostics_resolveAll source verify member
  cases fate : source.fate before owner with
  | unavailable | unparsable _ | idTaken _ _ => simp [fate, Fate.reports] at made
  | resolved format =>
    obtain ⟨text, answer, written, parsed⟩ :=
      FormatSource.parse_of_format? (FormatSource.format?_of_resolved fate)
    rw [fate, Fate.reports, List.mem_append] at made
    rcases made with ofField | ofHeader
    · obtain ⟨wanted, listed, made⟩ := List.mem_filterMap.mp ofField
      cases outcome : FieldOutcome.find format wanted with
      | kept _ | missing | tooLong _ => simp [outcome, FieldOutcome.diagnostic?] at made
      | unsupported kernel =>
        simp only [outcome, FieldOutcome.diagnostic?, Option.some.injEq,
          Diagnostic.fieldUnsupported.injEq] at made
        obtain ⟨rfl, rfl, rfl, rfl⟩ := made
        have found := (FieldOutcome.find_unsupported outcome).1
        obtain ⟨description, describes⟩ :=
          KernelFormat.describes_of_mem_fields parsed (List.mem_of_find?_eq_some found)
        refine ⟨owner, by simp, wanted, listed, kernel, description, rfl, rfl, rfl,
          ⟨text, format, answer, written, parsed, found, describes⟩, rfl, ?_⟩
        intro type shape target read reads holds
        exact FieldOutcome.loses_of_unsupported outcome describes read reads holds
    · split at ofHeader
      · simp at ofHeader
      · contradiction

/-- A catalogue without a defect builds into a table whose fields are read without loss, and a field
of integers is refused only where one would be lost. -/
theorem run_lossless (declared : List DeclaredEvent)
    (clean : Catalogue.defect? declared = none) :
    ∃ build, run source declared verify = .ok build ∧
      (∀ entry ∈ build.table.events, ∀ field ∈ entry.fields,
        ∃ event ∈ declared, ∃ wanted ∈ event.fields, ∃ kernel description,
          event.name = entry.name ∧ wanted.name = field.name ∧ wanted.type = field.proto ∧
          source.Matches event wanted.name kernel description ∧
          field.Follows entry.size kernel description) ∧
      (∀ event field kernel? proto,
        .fieldUnsupported event field kernel? proto ∈ build.diagnostics →
        ∃ owner ∈ declared, ∃ wanted ∈ owner.fields, ∃ kernel description,
          owner.name = event ∧ wanted.name = field ∧ wanted.type = proto ∧
          source.Matches owner field kernel description ∧ kernel.type? = kernel? ∧
          ∀ type shape target, kernel? = some type → type.intShape? = some shape →
            proto.intShape? = some target → kernel.Loses shape target) := by
  have sound := Catalogue.defect?_eq_none_iff.mp clean
  refine ⟨_, run_eq_ok source verify clean, ?_, ?_⟩
  · intro entry member field own
    rw [ofProgress, published_resolveAll source verify sound,
      (indexable_resolveAll source verify sound).mem_events_iff] at member
    exact follows_of_mem source verify member own
  · intro event field kernel? proto member
    exact loses_of_mem source verify member

/-- One field is kept, and the same kernel field is refused where it would lose its sign. -/
theorem run_lossless_sample :
    Catalogue.defect? sampleEvents = none ∧
    ∃ build, run sampleTexts.source sampleEvents true = .ok build ∧
      (∃ entry ∈ build.table.events, ∃ field ∈ entry.fields,
        field.conversion = .signExtend .w32 .w64 ∧
        ∃ kernel description, field.Follows entry.size kernel description) ∧
      .fieldUnsupported "sched_blocked_reason" "pid" (some (.integer ⟨.w32, true⟩)) .uint32 ∈
        build.diagnostics ∧
      ∃ kernel : KernelField, kernel.Loses ⟨.w32, true⟩ ⟨.w32, false⟩ := by
  obtain ⟨build, made, kept, refused⟩ := run_lossless sampleTexts.source true sampleEvents (by decide)
  have seen : (run sampleTexts.source sampleEvents true).toOption.any (fun build =>
      build.table.events.any (fun entry =>
        entry.fields.any (·.conversion = .signExtend .w32 .w64)) &&
      build.diagnostics.contains
        (.fieldUnsupported "sched_blocked_reason" "pid" (some (.integer ⟨.w32, true⟩)) .uint32))
      = true := by decide +kernel
  rw [made] at seen
  simp only [Except.toOption, Option.any_some, Bool.and_eq_true, List.any_eq_true,
    decide_eq_true_eq, List.contains_iff_mem] at seen
  obtain ⟨⟨entry, member, field, own, conversion⟩, reported⟩ := seen
  obtain ⟨-, -, -, -, kernel, description, -, -, -, -, follows⟩ := kept entry member field own
  obtain ⟨-, -, -, -, other, -, -, -, -, -, -, loses⟩ := refused _ _ _ _ reported
  exact ⟨by decide, build, made,
    ⟨entry, member, field, own, conversion, kernel, description, follows⟩, reported,
    other, loses _ _ _ rfl rfl rfl⟩

end Build

end TraceLayout
