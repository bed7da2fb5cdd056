import TraceLayout.Proofs.Kernel.Characters
import TraceLayout.Proofs.Layout.Accounting
import TraceLayout.Proofs.Layout.FieldResolution
import TraceLayout.Proofs.Layout.RecordFields

/-! Text in a table comes from characters in the record. A kernel address is never published as
text, whatever declaration the kernel prints. -/
namespace TraceLayout

namespace Conversion
variable {kernel : KernelType} {proto : ProtoType} {conversion : Conversion}

theorem not_isByteRun_of_intShape? {shape : IntShape} (holds : proto.intShape? = some shape) :
    proto.isByteRun = false := by
  cases proto <;> first | contradiction | rfl

/-- Text and bytes come from the three layouts of characters, and all else from integers. -/
theorem between?_cases (chosen : between? kernel proto = some conversion) :
    (kernel = .dataLoc ∧ conversion = .dataLoc ∧ proto = .string) ∨
    (kernel = .charRun ∧ conversion = .charRun ∧ proto.isByteRun = true) ∨
    (kernel = .charArray ∧ conversion = .charArray ∧ proto.isByteRun = true) ∨
    ((∃ shape, kernel.intShape? = some shape) ∧ proto.isByteRun = false ∧
      (conversion = .bool ∨ ∃ widths, conversion.widths? = some widths)) := by
  have ofIntegers (made : integer? kernel proto = some conversion) :
      (∃ shape, kernel.intShape? = some shape) ∧ proto.isByteRun = false ∧
        (conversion = .bool ∨ ∃ widths, conversion.widths? = some widths) := by
    obtain ⟨source, target, reads, holds, shapes⟩ := integer?_eq_some_iff.mp made
    exact ⟨⟨source, reads⟩, not_isByteRun_of_intShape? holds,
      .inr ⟨_, (widths_of_ofShapes? shapes).1⟩⟩
  cases kernel with
  | integer _ | pointer32 | pointer64 => exact .inr (.inr (.inr (ofIntegers chosen)))
  | charPointer => contradiction
  | bool =>
    simp only [between?] at chosen
    split at chosen
    · rename_i isBool
      obtain rfl := Option.some.inj chosen
      exact .inr (.inr (.inr ⟨⟨_, rfl⟩, by rw [isBool]; rfl, .inl rfl⟩))
    · exact .inr (.inr (.inr (ofIntegers chosen)))
  | dataLoc =>
    simp only [between?, Option.ite_none_right_eq_some] at chosen
    obtain ⟨text, made⟩ := chosen
    exact .inl ⟨rfl, (Option.some.inj made).symm, text⟩
  | charRun =>
    simp only [between?, Option.ite_none_right_eq_some] at chosen
    obtain ⟨text, made⟩ := chosen
    exact .inr (.inl ⟨rfl, (Option.some.inj made).symm, text⟩)
  | charArray =>
    simp only [between?, Option.ite_none_right_eq_some] at chosen
    obtain ⟨text, made⟩ := chosen
    exact .inr (.inr (.inl ⟨rfl, (Option.some.inj made).symm, text⟩))

end Conversion

namespace FieldLayout
open Text CDecl

/-- A field is read as text because its declaration puts characters into the record. -/
inductive HoldsText (field : FieldLayout) (decl : CDecl) : Prop
  | dataLoc (rest : List Char) (located : decl.type = "__data_loc".toList ++ rest)
      (chars : SpellsChar (trim (dropEmptyArrays (trim rest))))
      (conversion : field.conversion = .dataLoc) (proto : field.proto = .string)
  | charRun (extent : List Char) (array : decl.IsCharArray extent) (open_ : IsUnbounded extent)
      (conversion : field.conversion = .charRun)
  | charArray (extent : List Char) (array : decl.IsCharArray extent) (closed : ¬ IsUnbounded extent)
      (conversion : field.conversion = .charArray) (sized : 0 < field.size)

theorem holdsText_of_infer {field : FieldLayout} {declaration : String} {signed : Bool}
    (inferred : KernelType.infer declaration field.size signed = some field.kernel)
    (chosen : Conversion.between? field.kernel field.proto = some field.conversion)
    (text : field.proto.isByteRun = true) :
    ∃ decl, Splits declaration.toList decl ∧ field.HoldsText decl := by
  obtain ⟨decl, cut, found⟩ := Option.bind_eq_some_iff.mp inferred
  refine ⟨decl, ofText?_eq_some_iff.mp cut, ?_⟩
  rcases Conversion.between?_cases chosen with
    ⟨kernel, conversion, proto⟩ | ⟨kernel, conversion, -⟩ | ⟨kernel, conversion, -⟩ | ⟨-, other, -⟩
  · rw [kernel] at found
    obtain ⟨rest, located, chars⟩ := KernelType.ofDecl?_eq_dataLoc_iff.mp found
    exact .dataLoc rest located chars conversion proto
  · rw [kernel] at found
    obtain ⟨extent, array, ⟨-, open_⟩ | ⟨other, -⟩⟩ :=
      (KernelType.ofDecl?_eq_array_iff (.inl rfl)).mp found
    · exact .charRun extent array open_ conversion
    · contradiction
  · rw [kernel] at found
    obtain ⟨extent, array, ⟨other, -⟩ | ⟨-, closed, sized⟩⟩ :=
      (KernelType.ofDecl?_eq_array_iff (.inr rfl)).mp found
    · contradiction
    · exact .charArray extent array closed conversion sized
  · rw [text] at other
    contradiction

end FieldLayout

theorem ProtoType.isByteRun_iff {proto : ProtoType} :
    proto.isByteRun = true ↔ proto = .string ∨ proto = .bytes := by
  simp [isByteRun]

namespace Build
variable (source : FormatSource) (verify : Bool)

/-- A catalogue without a defect builds into a table where no field is an address of characters.
Text and bytes, and nothing else, are read from the characters that a declaration puts into the
record. -/
theorem run_publishesNoAddress (declared : List DeclaredEvent)
    (clean : Catalogue.defect? declared = none) :
    ∃ build, run source declared verify = .ok build ∧
      ∀ entry ∈ build.table.events, ∀ field ∈ entry.fields,
        field.kernel ≠ .charPointer ∧
        (field.proto = .string ∨ field.proto = .bytes →
          ∃ event ∈ declared, ∃ wanted ∈ event.fields, ∃ format kernel decl,
            event.name = entry.name ∧ wanted.name = field.name ∧ wanted.type = field.proto ∧
            source.Reads event format ∧ format.First wanted.name kernel ∧
            CDecl.Splits kernel.declaration.toList decl ∧ field.HoldsText decl) ∧
        (field.conversion = .dataLoc ∨ field.conversion = .charRun ∨
            field.conversion = .charArray →
          field.proto = .string ∨ field.proto = .bytes) := by
  have sound := Catalogue.defect?_eq_none_iff.mp clean
  refine ⟨_, run_eq_ok source verify clean, ?_⟩
  intro entry present field own
  have member := (mem_events_ofProgress source verify sound).mp present
  obtain ⟨event, there, format, shared, read, -, rfl⟩ :=
    mem_events_resolveAll source verify member
  obtain ⟨wanted, listed, kept⟩ := Progress.mem_fields_layout.mp own
  obtain ⟨kernel, found, type, chosen, name, -, proto, -, size, -⟩ := FieldOutcome.find_kept kept
  refine ⟨?_, ?_, ?_⟩
  · intro address
    rw [address] at chosen
    contradiction
  · intro text
    obtain ⟨contents, -, -, parsed⟩ := FormatSource.parse_of_format? read
    obtain ⟨description, describes⟩ :=
      KernelFormat.describes_of_mem_fields parsed (List.mem_of_find?_eq_some found)
    have inferred := (KernelField.ofSegments_ok describes.2).2.symm.trans type
    rw [← size] at inferred
    obtain ⟨decl, splits, holds⟩ :=
      FieldLayout.holdsText_of_infer inferred chosen (ProtoType.isByteRun_iff.mpr text)
    exact ⟨event, there, wanted, listed, format, kernel, decl, rfl, name.symm, proto.symm,
      FormatSource.reads_iff.mpr read, KernelFormat.field?_eq_some_iff.mp found, splits, holds⟩
  · intro reads
    apply ProtoType.isByteRun_iff.mp
    rcases Conversion.between?_cases chosen with
      ⟨-, -, isString⟩ | ⟨-, -, text⟩ | ⟨-, -, text⟩ | ⟨-, -, isBool | ⟨widths, integers⟩⟩
    · rw [isString]
      rfl
    · exact text
    · exact text
    · rw [isBool] at reads
      simp at reads
    · rcases reads with same | same | same <;> rw [same] at integers <;> contradiction

/-- Characters in the record three times, and the address of some. -/
def characterEvents : List DeclaredEvent :=
  [⟨"e", "g", 1, [⟨"a", 1, .string⟩, ⟨"b", 2, .string⟩, ⟨"c", 3, .bytes⟩, ⟨"p", 4, .string⟩]⟩]

def characterTexts : FormatStore := ⟨[(("g", "e"),
  "ID:9\nformat:\nfield:u8 h;offset:0;size:1;\n\nfield:char a[4];offset:1;size:4;\n" ++
  "field:__data_loc u8[] b;offset:5;size:4;\nfield:u8 c[];offset:9;size:0;\n" ++
  "field:char *p;offset:9;size:8;")]⟩

theorem run_publishesNoAddress_sample :
    Catalogue.defect? characterEvents = none ∧
    ∃ build, run characterTexts.source characterEvents true = .ok build ∧
      (∃ entry ∈ build.table.events,
        entry.fields.map (·.conversion) = [.charArray, .dataLoc, .charRun]) ∧
      ∀ entry ∈ build.table.events, ∀ field ∈ entry.fields, field.kernel ≠ .charPointer ∧
        (field.proto = .string ∨ field.proto = .bytes → ∃ decl, field.HoldsText decl) := by
  obtain ⟨build, made, each⟩ :=
    run_publishesNoAddress characterTexts.source true characterEvents (by decide)
  have seen := check_of_run (fun build => build.table.events.any fun entry =>
    entry.fields.map (·.conversion) = [.charArray, .dataLoc, .charRun]) made (by decide +kernel)
  simp only [List.any_eq_true, decide_eq_true_eq] at seen
  refine ⟨by decide, build, made, seen, ?_⟩
  intro entry member field own
  obtain ⟨noAddress, text, -⟩ := each entry member field own
  refine ⟨noAddress, fun wanted => ?_⟩
  obtain ⟨-, -, -, -, -, -, decl, -, -, -, -, -, -, holds⟩ := text wanted
  exact ⟨decl, holds⟩

end Build

end TraceLayout
