import TraceLayout.Proofs.Kernel.FormatReading
import TraceLayout.Proofs.Text.Numerals
import TraceLayout.Proofs.Text.Trim

/-! What the segments of a field line say, in any order. A line says of a field what its declaration
and the last value of each key say, and where no key is repeated it goes on to say the same when its
segments change places, are spaced out, or have others between them that give no key. -/
namespace TraceLayout

namespace KernelField
open Text

/-- The field that a line describes, or what is wrong with it. Other lines describe none. -/
def ofLine? (line : List Char) : Option (Except FieldFault KernelField) :=
  (description? line).map ofDescription

/-- A section reads each of its lines so, unless it is blank. -/
theorem read_eq_ofLine? (seen : KernelFormat.Section) {line : List Char} (written : line ≠ []) :
    seen.read line = match ofLine? line with
      | none => .ok seen
      | some (.ok field) => seen.add field
      | some (.error fault) => .error fault := by
  rw [KernelFormat.Section.read, if_neg written, ofLine?]
  cases description? line with
  | none => rfl
  | some description =>
    simp only [Option.map_some]
    cases ofDescription description <;> rfl

/-- The keys of the attributes that a segment can give. -/
def keys : List String := ["offset:", "size:", "signed:"]

/-- A field line: a mark, then a declaration and segments with semicolons between them. -/
def lineOf (mark : String) (declaration : List Char) (segments : List (List Char)) : List Char :=
  mark.toList ++ [';'].intercalate (declaration :: segments)

/-- The trimmed values that segments give for a key, in order. -/
def valuesOf (key : String) (segments : List (List Char)) : List (List Char) :=
  segments.filterMap (valueOf? key)

def GivesOnce (segments : List (List Char)) : Prop :=
  ∀ key ∈ keys, (valuesOf key segments).length ≤ 1

def IsSilent (segment : List Char) : Prop := ∀ key ∈ keys, ¬ key.toList <+: trim segment

/-- Segments in another order, with other white space around them, and with more or fewer segments
that give no key. -/
inductive Rearranged : List (List Char) → List (List Char) → Prop
  | perm : segments.Perm others → Rearranged segments others
  | space {front back segment : List Char} {before after : List (List Char)} :
      (∀ c ∈ front, isBlank c = true) → (∀ c ∈ back, isBlank c = true) →
      Rearranged (before ++ segment :: after) (before ++ (front ++ segment ++ back) :: after)
  | insert {segment : List Char} {before after : List (List Char)} :
      IsSilent segment → ';' ∉ segment →
      Rearranged (before ++ after) (before ++ segment :: after)
  | symm : Rearranged segments others → Rearranged others segments
  | trans : Rearranged segments others → Rearranged others more → Rearranged segments more

/-- What a declaration and segments say of a field. Every offset and every size has to be a numeral,
and the last value of each key counts. -/
structure Yields (declaration : List Char) (segments : List (List Char)) (field : KernelField) :
    Prop where
  declared : trim declaration ≠ []
  readable : ∀ key ∈ ["offset:", "size:"], ∀ value ∈ valuesOf key segments,
    ∃ n ≤ 65535, Numeral value n
  offset : ∃ value ∈ (valuesOf "offset:" segments).getLast?, Numeral value field.offset.toNat
  size : ∃ value ∈ (valuesOf "size:" segments).getLast?, Numeral value field.size.toNat
  signed : field.signed = true ↔ (valuesOf "signed:" segments).getLast? = some ['1']
  made : field =
    ofDeclaration (String.ofList (trim declaration)) field.offset field.size field.signed

variable {segments others : List (List Char)} {declaration : List Char} {field : KernelField}

theorem valueOf?_eq_none_iff {key : String} {segment : List Char} :
    valueOf? key segment = none ↔ ¬ key.toList <+: trim segment := by
  rw [valueOf?, Option.map_eq_none_iff, Option.eq_none_iff_forall_ne_some]
  simp only [ne_eq, after?_eq_some_iff, List.IsPrefix, not_exists, eq_comm (a := trim segment)]

theorem GivesOnce.eq_nil_or_singleton (once : GivesOnce segments) {key : String}
    (known : key ∈ keys) :
    valuesOf key segments = [] ∨ ∃ value, valuesOf key segments = [value] := by
  have short := once key known
  match values : valuesOf key segments with
  | [] => exact .inl rfl
  | [value] => exact .inr ⟨value, rfl⟩
  | _ :: _ :: _ => simp [values] at short

namespace Rearranged

theorem valuesOf_perm (same : Rearranged segments others) {key : String} (known : key ∈ keys) :
    (valuesOf key segments).Perm (valuesOf key others) := by
  induction same with
  | perm perm => exact perm.filterMap _
  | @space front back segment before after blankFront blankBack =>
    have trimmed : trim (front ++ segment ++ back) = trim segment := by
      rw [trim_append_of_blank blankBack, trim_append_of_blank_left blankFront]
    have value : valueOf? key (front ++ segment ++ back) = valueOf? key segment := by
      rw [valueOf?, trimmed, valueOf?]
    rw [valuesOf, valuesOf, List.filterMap_append, List.filterMap_append, List.filterMap_cons,
      List.filterMap_cons, value]
  | insert silent _ =>
    have none_ := valueOf?_eq_none_iff.mpr (silent key known)
    simp [valuesOf, List.filterMap_append, none_]
  | symm _ ih => exact ih.symm
  | trans _ _ first second => exact first.trans second

theorem parted_iff (same : Rearranged segments others) :
    (∀ segment ∈ segments, ';' ∉ segment) ↔ ∀ segment ∈ others, ';' ∉ segment := by
  induction same with
  | perm perm => simp only [perm.mem_iff]
  | @space front back segment before after blankFront blankBack =>
    have free := notMem_of_blank (c := ';') (by decide) blankFront
    have free' := notMem_of_blank (c := ';') (by decide) blankBack
    simp [List.mem_append, or_imp, forall_and, free, free']
  | insert _ free => simp [List.mem_append, or_imp, forall_and, free]
  | symm _ ih => exact ih.symm
  | trans _ _ first second => exact first.trans second

/-- Where a key is given once, its value stays when segments are rearranged. -/
theorem valuesOf_eq (same : Rearranged segments others) (once : GivesOnce segments) {key : String}
    (known : key ∈ keys) : valuesOf key segments = valuesOf key others := by
  have perm := same.valuesOf_perm known
  rcases once.eq_nil_or_singleton known with values | ⟨value, values⟩
  · rw [values] at perm ⊢
    exact perm.nil_eq
  · rw [values] at perm ⊢
    exact (List.perm_singleton.mp perm.symm).symm

end Rearranged

theorem Yields.of_values (yields : Yields declaration segments field)
    (same : ∀ key ∈ keys, valuesOf key segments = valuesOf key others) :
    Yields declaration others field where
  declared := yields.declared
  readable key member := by
    rw [← same key (by revert key; decide)]
    exact yields.readable key member
  offset := same "offset:" (by decide) ▸ yields.offset
  size := same "size:" (by decide) ▸ yields.size
  signed := same "signed:" (by decide) ▸ yields.signed
  made := yields.made

theorem numbersOf_eq_filterMap (key : String) (segments : List (List Char)) :
    numbersOf key segments = (valuesOf key segments).filterMap word? := by
  rw [valuesOf, List.filterMap_filterMap]
  rfl

theorem misread?_eq_none_iff {ε : Type} {key : String} {error : String → ε} {segment : List Char} :
    misread? key error segment = none ↔
      ∀ value ∈ valueOf? key segment, (word? value).isSome = true := by
  simp [misread?, Option.isSome_iff_ne_none]

/-- Segments are without a fault exactly if every offset and every size is a numeral that fits. -/
theorem faultless_iff :
    segments.findSome? segmentFault? = none ↔
      ∀ key ∈ ["offset:", "size:"], ∀ value ∈ valuesOf key segments,
        ∃ n ≤ 65535, Numeral value n := by
  simp only [List.findSome?_eq_none_iff, segmentFault?, Option.or_eq_none_iff,
    misread?_eq_none_iff, isSome_word?_iff, valuesOf, List.mem_filterMap, List.mem_cons,
    List.not_mem_nil, or_false, forall_eq_or_imp, forall_eq]
  constructor
  · intro faultless
    constructor
    · rintro value ⟨segment, member, given⟩
      exact (faultless segment member).1 value given
    · rintro value ⟨segment, member, given⟩
      exact (faultless segment member).2 value given
  · rintro ⟨offsets, sizes⟩ segment member
    exact ⟨fun value given => offsets value ⟨segment, member, given⟩,
      fun value given => sizes value ⟨segment, member, given⟩⟩

/-- The last number of a key is that of its last value, if all its values are numerals. -/
theorem getLast?_numbersOf {key : String}
    (readable : ∀ value ∈ valuesOf key segments, ∃ n ≤ 65535, Numeral value n) :
    (numbersOf key segments).getLast? = (valuesOf key segments).getLast?.bind word? := by
  rw [numbersOf_eq_filterMap]
  rcases List.eq_nil_or_concat (valuesOf key segments) with none_ | ⟨values, last, all⟩
  · rw [none_]
    rfl
  · obtain ⟨n, read⟩ := Option.isSome_iff_exists.mp
      (isSome_word?_iff.mpr (readable last (by simp [all])))
    simp [all, List.filterMap_append, read]

theorem mem_getLast?_numbersOf {key : String}
    (readable : ∀ value ∈ valuesOf key segments, ∃ n ≤ 65535, Numeral value n) {n : UInt16} :
    (numbersOf key segments).getLast? = some n ↔
      ∃ value ∈ (valuesOf key segments).getLast?, Numeral value n.toNat := by
  rw [getLast?_numbersOf readable, Option.bind_eq_some_iff]
  simp only [word?_eq_some_iff, Option.mem_def]

theorem ofSegments_eq_ok_iff :
    ofSegments (trim declaration) segments = .ok field ↔ Yields declaration segments field := by
  constructor
  · intro made
    unfold ofSegments at made
    split at made
    · contradiction
    rename_i declared
    split at made
    · contradiction
    rename_i faultless
    have readable := faultless_iff.mp faultless
    split at made
    · contradiction
    · contradiction
    rename_i offset size
    obtain rfl := Except.ok.inj made
    exact {
      declared
      readable
      offset := (mem_getLast?_numbersOf (readable _ (by decide))).mp offset
      size := (mem_getLast?_numbersOf (readable _ (by decide))).mp size
      signed := beq_iff_eq
      made := rfl }
  · intro yields
    have offset := (mem_getLast?_numbersOf (yields.readable _ (by decide))).mpr yields.offset
    have size := (mem_getLast?_numbersOf (yields.readable _ (by decide))).mpr yields.size
    have signed : isSigned segments = field.signed := by
      rw [isSigned, Bool.eq_iff_iff, yields.signed]
      exact beq_iff_eq
    rw [ofSegments, if_neg yields.declared, faultless_iff.mpr yields.readable, offset, size]
    simp only [signed, ← yields.made]

theorem ofLine?_lineOf {mark : String} (opens : mark ∈ marks) (whole : ';' ∉ declaration)
    (parted : ∀ segment ∈ segments, ';' ∉ segment) :
    ofLine? (lineOf mark declaration segments) =
      some (ofSegments (trim declaration) segments) := by
  have pieces : ([';'].intercalate (declaration :: segments)).splitOn ';' =
      declaration :: segments :=
    List.splitOn_intercalate ';' (List.forall_mem_cons.mpr ⟨whole, parted⟩) (by simp)
  have described_ : description? (lineOf mark declaration segments) =
      some ([';'].intercalate (declaration :: segments)) :=
    description?_eq_some_iff.mpr ⟨mark, opens, rfl⟩
  rw [ofLine?, described_, Option.map_some, ofDescription_eq_described, described, pieces]
  rfl

theorem ofLine?_eq_some_ok_iff {mark : String} (opens : mark ∈ marks) (whole : ';' ∉ declaration)
    (parted : ∀ segment ∈ segments, ';' ∉ segment) :
    ofLine? (lineOf mark declaration segments) = some (.ok field) ↔
      Yields declaration segments field := by
  rw [ofLine?_lineOf opens whole parted, Option.some.injEq, ofSegments_eq_ok_iff]

/-- A declaration, one offset or more and one size or more make up a field. -/
theorem exists_yields_iff :
    (∃ field, Yields declaration segments field) ↔
      trim declaration ≠ [] ∧ ∀ key ∈ ["offset:", "size:"], valuesOf key segments ≠ [] ∧
        ∀ value ∈ valuesOf key segments, ∃ n ≤ 65535, Numeral value n := by
  have given : ∀ {key : String} {n : Nat},
      (∃ value ∈ (valuesOf key segments).getLast?, Numeral value n) →
        valuesOf key segments ≠ [] := by
    rintro key n ⟨value, last, -⟩ none_
    rw [none_] at last
    contradiction
  constructor
  · rintro ⟨field, yields⟩
    refine ⟨yields.declared, fun key member => ⟨?_, yields.readable key member⟩⟩
    simp only [List.mem_cons, List.not_mem_nil, or_false] at member
    rcases member with rfl | rfl
    · exact given yields.offset
    · exact given yields.size
  · rintro ⟨declared, each⟩
    have last : ∀ key ∈ ["offset:", "size:"], ∃ n : UInt16,
        ∃ value ∈ (valuesOf key segments).getLast?, Numeral value n.toNat := by
      intro key member
      obtain ⟨written, readable⟩ := each key member
      obtain ⟨n, bounded, denoted⟩ := readable _ (List.getLast_mem written)
      refine ⟨UInt16.ofNatLT n (Nat.lt_succ_of_le bounded), _,
        List.getLast?_eq_some_getLast written, ?_⟩
      rwa [UInt16.toNat_ofNatLT]
    obtain ⟨offset, ofOffset⟩ := last "offset:" (by decide)
    obtain ⟨size, ofSize⟩ := last "size:" (by decide)
    refine ⟨ofDeclaration (String.ofList (trim declaration)) offset size (isSigned segments), ?_⟩
    exact {
      declared
      readable key member := (each key member).2
      offset := ofOffset
      size := ofSize
      signed := beq_iff_eq
      made := rfl }

/-- Where a key is given once at most, its last value is its only one. -/
theorem GivesOnce.mem_getLast?_iff (once : GivesOnce segments) {key : String} (known : key ∈ keys)
    {value : List Char} :
    value ∈ (valuesOf key segments).getLast? ↔ value ∈ valuesOf key segments := by
  rcases once.eq_nil_or_singleton known with values | ⟨first, values⟩
  · simp [values]
  · simp [values, eq_comm]

theorem GivesOnce.forall_mem (once : GivesOnce segments) {key : String} (known : key ∈ keys)
    {P : List Char → Prop} (last : ∃ value ∈ (valuesOf key segments).getLast?, P value) :
    ∀ value ∈ valuesOf key segments, P value := by
  obtain ⟨value, final, holds⟩ := last
  intro other member
  obtain rfl := Option.mem_unique ((once.mem_getLast?_iff known).mpr member) final
  exact holds

/-- The two marks come to the same. A line describes a field exactly if its declaration is written
and its offsets and sizes are numerals that fit, one of each at least, and the last value of each
key decides. Where no key is repeated, rearranged segments describe the same field. -/
theorem ofLine?_yields {mark : String} {declaration : List Char} {segments : List (List Char)}
    (opens : mark ∈ marks) (whole : ';' ∉ declaration)
    (parted : ∀ segment ∈ segments, ';' ∉ segment) :
    (∀ other ∈ marks, ofLine? (lineOf other declaration segments) =
      ofLine? (lineOf mark declaration segments)) ∧
    ((∃ field, ofLine? (lineOf mark declaration segments) = some (.ok field)) ↔
      trim declaration ≠ [] ∧ ∀ key ∈ ["offset:", "size:"], valuesOf key segments ≠ [] ∧
        ∀ value ∈ valuesOf key segments, ∃ n ≤ 65535, Numeral value n) ∧
    (∀ field, ofLine? (lineOf mark declaration segments) = some (.ok field) ↔
      Yields declaration segments field) ∧
    (GivesOnce segments →
      (∀ others, Rearranged segments others → ∀ field,
        ofLine? (lineOf mark declaration segments) = some (.ok field) ↔
          ofLine? (lineOf mark declaration others) = some (.ok field)) ∧
      ∀ field, ofLine? (lineOf mark declaration segments) = some (.ok field) →
        (∀ value ∈ valuesOf "offset:" segments, Numeral value field.offset.toNat) ∧
        (∀ value ∈ valuesOf "size:" segments, Numeral value field.size.toNat) ∧
        (field.signed = true ↔ ['1'] ∈ valuesOf "signed:" segments)) := by
  have described (field : KernelField) :
      ofLine? (lineOf mark declaration segments) = some (.ok field) ↔
        Yields declaration segments field := ofLine?_eq_some_ok_iff opens whole parted
  refine ⟨?_, ?_, described, ?_⟩
  · intro other opens'
    rw [ofLine?_lineOf opens whole parted, ofLine?_lineOf opens' whole parted]
  · simp only [described]
    exact exists_yields_iff
  · intro once
    constructor
    · intro others same field
      rw [described, ofLine?_eq_some_ok_iff opens whole (same.parted_iff.mp parted)]
      have values : ∀ key ∈ keys, valuesOf key segments = valuesOf key others :=
        fun key known => same.valuesOf_eq once known
      exact ⟨fun yields => yields.of_values values,
        fun yields => yields.of_values fun key known => (values key known).symm⟩
    · intro field made
      obtain ⟨-, -, offset, size, signed, -⟩ := (described field).mp made
      exact ⟨once.forall_mem (by decide) offset, once.forall_mem (by decide) size,
        signed.trans (once.mem_getLast?_iff (by decide))⟩

/-- The last of several offsets and sizes counts. -/
example :
    ofLine? "field:u8 cpu;offset:9;size:04;offset:+7;size:1;signed:1;signed:01".toList =
      some (.ok (ofDeclaration "u8 cpu" 7 1 false)) := by
  decide

/-- The segments of a line that gives each key once, with zeros, a sign and white space. -/
def spacedSegments : List (List Char) :=
  ["\toffset:+00028".toList, " size: 4\u00a0".toList, "unit:byte".toList, "signed:1".toList]

/-- The same attributes in another order, and nothing else. -/
def plainSegments : List (List Char) :=
  ["signed:1".toList, "size: 4".toList, "offset:+00028".toList]

theorem rearranged_spacedSegments : Rearranged spacedSegments plainSegments := by
  have offset : Rearranged ("offset:+00028".toList :: spacedSegments.tail) spacedSegments :=
    @Rearranged.space ['\t'] [] _ [] _ (List.forall_mem_singleton.mpr (by decide))
      (List.forall_mem_nil _)
  have size : Rearranged
      ["offset:+00028".toList, "size: 4".toList, "unit:byte".toList, "signed:1".toList]
      ("offset:+00028".toList :: spacedSegments.tail) :=
    @Rearranged.space [' '] ['\u00a0'] _ ["offset:+00028".toList] _
      (List.forall_mem_singleton.mpr (by decide)) (List.forall_mem_singleton.mpr (by decide))
  have unit : Rearranged ["offset:+00028".toList, "size: 4".toList, "signed:1".toList]
      ["offset:+00028".toList, "size: 4".toList, "unit:byte".toList, "signed:1".toList] :=
    @Rearranged.insert _ ["offset:+00028".toList, "size: 4".toList] _ (by unfold IsSilent; decide)
      (by decide)
  exact (unit.trans (size.trans offset)).symm.trans (.perm (by decide))

theorem ofLine?_yields_sample :
    "field special:" ∈ marks ∧ ';' ∉ "int\t*prio ".toList ∧
    (∀ segment ∈ spacedSegments, ';' ∉ segment) ∧ GivesOnce spacedSegments ∧
    Rearranged spacedSegments plainSegments ∧
    lineOf "field special:" "int\t*prio ".toList spacedSegments =
      "field special:int\t*prio ;\toffset:+00028; size: 4\u00a0;unit:byte;signed:1".toList ∧
    ∃ field, ofLine? (lineOf "field special:" "int\t*prio ".toList spacedSegments) =
        some (.ok field) ∧
      ofLine? (lineOf "field special:" "int\t*prio ".toList plainSegments) = some (.ok field) ∧
      ofLine? (lineOf "field:" "int\t*prio ".toList spacedSegments) = some (.ok field) ∧
      Numeral "+00028".toList field.offset.toNat ∧ Numeral "4".toList field.size.toNat ∧
      field.signed = true := by
  have opens : "field special:" ∈ marks := by decide
  have whole : ';' ∉ "int\t*prio ".toList := by decide
  have parted : ∀ segment ∈ spacedSegments, ';' ∉ segment := by decide
  have once : GivesOnce spacedSegments := by unfold GivesOnce; decide
  obtain ⟨marked, described, -, single⟩ := ofLine?_yields opens whole parted
  obtain ⟨rearranged, reads⟩ := single once
  obtain ⟨field, made⟩ := described.mpr (by
    refine ⟨by decide, ?_⟩
    simp only [← isSome_word?_iff]
    decide)
  obtain ⟨offset, size, signed⟩ := reads field made
  exact ⟨opens, whole, parted, once, rearranged_spacedSegments, by decide, field, made,
    (rearranged _ rearranged_spacedSegments field).mp made,
    (marked "field:" (by decide)).trans made, offset _ (by decide), size _ (by decide),
    signed.mpr (by decide)⟩

end KernelField

end TraceLayout
