import TraceLayout.Kernel.KernelFormat
import TraceLayout.Proofs.Kernel.Characters

/-! Arrays of characters whose extent is an expression. A declaration is cut at its last white
space, so an extent that has white space in it is cut in two. -/
namespace TraceLayout

namespace CDecl
open Text

/-- The parts of an array of characters as the kernel prints it: an element type, a name, and an
extent, which can be any constant expression. -/
structure IsArrayText (element name extent : List Char) : Prop where
  chars : isCharType element = true
  named : name ≠ []
  name : ∀ c ∈ name, isBlank c = false ∧ c ≠ '*' ∧ c ≠ '[' ∧ c ≠ ']'
  written : ∃ c ∈ extent, isBlank c = false
  extent : ∀ c ∈ extent, c ≠ '[' ∧ c ≠ ']' ∧ c ≠ ';' ∧ c ≠ '\n'

instance (element name extent : List Char) : Decidable (IsArrayText element name extent) :=
  decidable_of_iff
    (isCharType element = true ∧ name ≠ [] ∧
      (name.all fun c => !isBlank c && c != '*' && c != '[' && c != ']') = true ∧
      (extent.any fun c => !isBlank c) = true ∧
      (extent.all fun c => c != '[' && c != ']' && c != ';' && c != '\n') = true)
    (by
      constructor
      · rintro ⟨chars, named, plain, written, extent⟩
        exact ⟨chars, named, by simpa [and_assoc] using plain, by simpa using written,
          by simpa [and_assoc] using extent⟩
      · rintro ⟨chars, named, plain, written, extent⟩
        exact ⟨chars, named, by simpa [and_assoc] using plain, by simpa using written,
          by simpa [and_assoc] using extent⟩)

def arrayText (element name extent : List Char) : List Char :=
  element ++ ' ' :: (name ++ '[' :: (extent ++ [']']))

variable {element name extent : List Char} (array : IsArrayText element name extent)
include array

theorem splits_of_solid (solid : ∀ c ∈ extent, isBlank c = false) :
    Splits (arrayText element name extent)
      ⟨trim element, name ++ '[' :: (extent ++ [']'])⟩ := by
  apply splits_append_cons (isCharType_iff.mp array.chars).trim_ne_nil rfl (by simp)
  intro c member
  simp only [List.mem_append, List.mem_cons, List.not_mem_nil, or_false] at member
  rcases member with own | rfl | inner | rfl
  · exact (array.name c own).1
  · rfl
  · exact solid c inner
  · rfl

/-- An array is cut inside its extent if white space is written there. -/
theorem splits_of_blank (blank : ∃ c ∈ extent, isBlank c = true) :
    ∃ type late, '[' ∉ late ∧ Splits (arrayText element name extent) ⟨type, late ++ [']']⟩ := by
  obtain ⟨early, b, late, rfl, blank, solid⟩ := exists_last_blank blank
  refine ⟨trim (element ++ ' ' :: (name ++ '[' :: early)), late, ?_, ?_⟩
  · intro member
    exact (array.extent '[' (by simp [member])).1 rfl
  have written : trim (element ++ ' ' :: (name ++ '[' :: early)) ≠ [] := by
    have some_ := (isCharType_iff.mp array.chars).trim_ne_nil
    rw [ne_eq, trim_eq_nil_iff] at some_ ⊢
    exact fun all => some_ fun c member => all c (List.mem_append_left _ member)
  have text : arrayText element name (early ++ b :: late) =
      (element ++ ' ' :: (name ++ '[' :: early)) ++ b :: (late ++ [']']) := by
    simp [arrayText]
  rw [text]
  apply splits_append_cons written blank (by simp)
  intro c member
  rcases List.mem_append.mp member with inner | last
  · exact solid c inner
  · exact List.mem_singleton.mp last ▸ rfl

theorem isCharArray_of_solid :
    IsCharArray ⟨trim element, name ++ '[' :: (extent ++ [']'])⟩ (extent ++ [']']) where
  plain := by simpa using (isCharType_iff.mp array.chars).plain []
  noStar := (isCharType_iff.mp array.chars).noStar
  noPointer := by
    cases own : name with
    | nil => simp
    | cons c rest =>
      have first := array.name c (by simp [own])
      simp [first.2.1]
  bracket := ⟨name, fun member => (array.name '[' member).2.2.1 rfl, rfl⟩
  chars := by
    have chars := isCharType_iff.mp array.chars
    rwa [SpellsChar, ← trim_trim] at chars

theorem not_isUnbounded : ¬ IsUnbounded (extent ++ [']']) := by
  obtain ⟨c, member, solid⟩ := array.written
  have inner : dropEndWhile (· == ']') (extent ++ [']']) = extent := by
    rw [dropEndWhile_append, if_pos (by decide)]
    refine dropEndWhile_eq_self_iff.mpr fun c last => ?_
    simpa using (array.extent c (List.mem_of_getLast? last)).2.1
  intro unbounded
  rw [IsUnbounded, inner] at unbounded
  rw [unbounded c member] at solid
  contradiction

end CDecl

namespace KernelField
open Text CDecl
variable {element name extent : List Char}

section
variable (offset size : UInt16) (signed : Bool)

theorem name_ofDeclaration {declaration : List Char} {decl : CDecl}
    (splits : Splits declaration decl) :
    (ofDeclaration (String.ofList declaration) offset size signed).name =
      String.ofList (bareName decl.declarator) := by
  rw [KernelField.name, ofDeclaration, String.toList_ofList, nameOf_of_splits splits]

theorem type?_ofDeclaration {declaration : List Char} {decl : CDecl}
    (splits : Splits declaration decl) :
    (ofDeclaration (String.ofList declaration) offset size signed).type? =
      KernelType.ofDecl? decl size signed := by
  rw [ofDeclaration, KernelType.infer, String.toList_ofList, ofText?_of_splits splits,
    Option.bind_some]

theorem isSome_field? {format : KernelFormat} {field : KernelField}
    (member : field ∈ format.fields) : (format.field? field.name).isSome = true := by
  rw [KernelFormat.field?, List.find?_isSome]
  exact ⟨field, member, beq_self_eq_true _⟩

theorem ofDeclaration_of_solid (array : IsArrayText element name extent) (sized : 0 < size)
    (solid : ∀ c ∈ extent, isBlank c = false) :
    (ofDeclaration (String.ofList (arrayText element name extent)) offset size signed).name =
        String.ofList name ∧
      (ofDeclaration (String.ofList (arrayText element name extent)) offset size signed).type? =
        some .charArray := by
  have splits := splits_of_solid array solid
  rw [name_ofDeclaration offset size signed splits, type?_ofDeclaration offset size signed splits]
  constructor
  · rw [bareName_append_bracket (fun member => (array.name '*' member).2.1 rfl)
      (fun member => (array.name '[' member).2.2.1 rfl)]
  · exact (KernelType.ofDecl?_eq_array_iff (.inr rfl)).mpr
      ⟨_, isCharArray_of_solid array, .inr ⟨rfl, not_isUnbounded array, sized⟩⟩

/-- With white space in the extent, the field has a name that ends in a bracket. -/
theorem ofDeclaration_of_blank (array : IsArrayText element name extent)
    (blank : ∃ c ∈ extent, isBlank c = true) :
    (ofDeclaration (String.ofList (arrayText element name extent)) offset size signed).name ≠
        String.ofList name ∧
      (ofDeclaration (String.ofList (arrayText element name extent)) offset size signed).type? ≠
        some .charArray := by
  obtain ⟨type, late, unopened, splits⟩ := splits_of_blank array blank
  rw [name_ofDeclaration offset size signed splits, type?_ofDeclaration offset size signed splits]
  have noBracket : '[' ∉ late ++ [']'] := by simpa using unopened
  constructor
  · intro same
    have bare : bareName (late ++ [']']) = name := String.ofList_injective same
    have closes : ']' ∈ bareName (late ++ [']']) :=
      mem_bareName noBracket (by simp) (by decide)
    rw [bare] at closes
    exact (array.name ']' closes).2.2.2 rfl
  · intro read
    obtain ⟨text, array, -⟩ := (KernelType.ofDecl?_eq_array_iff (.inr rfl)).mp read
    obtain ⟨front, -, bracket⟩ := array.bracket
    have opens : '[' ∈ front ++ '[' :: text := by simp
    rw [← bracket] at opens
    exact noBracket opens

end

/-- An array of characters has its name and its layout, and is found by its name, exactly if its
extent is written without white space. -/
theorem ofDeclaration_arrayText (array : IsArrayText element name extent) (offset : UInt16)
    {size : UInt16} (sized : 0 < size) (signed : Bool) :
    let field := ofDeclaration (String.ofList (arrayText element name extent)) offset size signed
    (field.name = String.ofList name ↔ ∀ c ∈ extent, isBlank c = false) ∧
    (field.type? = some .charArray ↔ ∀ c ∈ extent, isBlank c = false) ∧
    ((∀ format : KernelFormat, field ∈ format.fields →
      (format.field? (String.ofList name)).isSome = true) ↔ ∀ c ∈ extent, isBlank c = false) := by
  intro field
  by_cases solid : ∀ c ∈ extent, isBlank c = false
  · obtain ⟨named, typed⟩ := ofDeclaration_of_solid offset size signed array sized solid
    refine ⟨iff_of_true named solid, iff_of_true typed solid, iff_of_true ?_ solid⟩
    intro format member
    rw [← named]
    exact isSome_field? member
  · have blank : ∃ c ∈ extent, isBlank c = true := by simpa using solid
    obtain ⟨named, typed⟩ := ofDeclaration_of_blank offset size signed array blank
    refine ⟨iff_of_false named solid, iff_of_false typed solid, iff_of_false ?_ solid⟩
    intro found
    have lost := found ⟨"", 1, [field], []⟩ (List.mem_singleton_self field)
    rw [KernelFormat.field?, List.find?_isSome] at lost
    obtain ⟨other, member, same⟩ := lost
    rw [List.mem_singleton.mp member] at same
    exact named (beq_iff_eq.mp same)

theorem ofDeclaration_arrayText_sample :
    IsArrayText "const volatile u8".toList "mac".toList "ETH_ALEN*(1+1)".toList ∧
      (0 : UInt16) < 12 ∧
      (ofDeclaration "const volatile u8 mac[ETH_ALEN*(1+1)]" 8 12 false).name = "mac" ∧
      (ofDeclaration "const volatile u8 mac[ETH_ALEN*(1+1)]" 8 12 false).type? =
        some .charArray := by
  have array : IsArrayText "const volatile u8".toList "mac".toList "ETH_ALEN*(1+1)".toList := by
    decide
  have sized : (0 : UInt16) < 12 := by decide
  obtain ⟨named, typed, -⟩ := ofDeclaration_arrayText array 8 sized false
  have solid : ∀ c ∈ "ETH_ALEN*(1+1)".toList, isBlank c = false := by
    have all : ("ETH_ALEN*(1+1)".toList.all (!isBlank ·)) = true := by decide
    simpa only [List.all_eq_true, Bool.not_eq_true'] using all
  exact ⟨array, sized, named.mpr solid, typed.mpr solid⟩

/-- An extent as the kernel prints it gives the field a part of itself as its name. -/
theorem spaced_extent_misread :
    IsArrayText "__u8".toList "saddr".toList "sizeof(struct sockaddr_in6)".toList ∧
      (ofDeclaration "__u8 saddr[sizeof(struct sockaddr_in6)]" 8 28 false).name =
        "sockaddr_in6)]" ∧
      (ofDeclaration "__u8 saddr[sizeof(struct sockaddr_in6)]" 8 28 false).type? = none :=
  ⟨by decide, by decide, by decide⟩

end KernelField

end TraceLayout
