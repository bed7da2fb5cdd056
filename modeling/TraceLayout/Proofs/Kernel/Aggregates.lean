import TraceLayout.Proofs.Kernel.Characters

/-! Layouts that are no single value: structs, unions, and arrays of anything but characters. Most
of them are refused, but a struct or union of the size of an integer is read as one, and an array of
pointers as an address. -/
namespace TraceLayout

theorem Width.ofBytes?_eq_none_iff {size : Nat} :
    ofBytes? size = none ↔ ∀ width : Width, size ≠ width.bytes := by
  rw [Option.eq_none_iff_forall_ne_some]
  exact forall_congr' fun width => not_congr ofBytes?_eq_some_iff

namespace CDecl
open Text

/-- A type opens with a word if nothing or white space follows the word. -/
def OpensWith (type : List Char) (word : String) : Prop :=
  ∃ rest, type = word.toList ++ rest ∧ ∀ c ∈ rest.head?, isBlank c = true

/-- The declaration has no star in its type or in front of its name. -/
structure IsDirect (decl : CDecl) : Prop where
  noStar : '*' ∉ decl.type
  noPointer : decl.declarator.head? ≠ some '*'

/-- The declaration of a struct or union that stands in the record itself, or of an array of some.
-/
structure IsAggregate (decl : CDecl) : Prop extends decl.IsDirect where
  word : OpensWith decl.type "struct" ∨ OpensWith decl.type "union"

/-- The declaration of an array whose elements are no characters, such as pointers. -/
structure IsOtherArray (decl : CDecl) : Prop where
  bracket : '[' ∈ decl.declarator
  elements : decl.IsDirect → ¬ SpellsChar decl.type

structure IsScalar (decl : CDecl) : Prop extends decl.IsDirect where
  noBracket : '[' ∉ decl.declarator

variable {decl : CDecl}

theorem isPointer_eq_false_iff_isDirect : decl.isPointer = false ↔ decl.IsDirect :=
  isPointer_eq_false_iff.trans ⟨fun h => ⟨h.1, h.2⟩, fun h => ⟨h.noStar, h.noPointer⟩⟩

theorem IsAggregate.not_spellsChar (aggregate : decl.IsAggregate) : ¬ SpellsChar decl.type := by
  intro chars
  rcases aggregate.word with ⟨rest, text, -⟩ | ⟨rest, text, -⟩
  · have closed : ¬ "struct".toList <+: trim decl.type ++ [] :=
      chars.not_isPrefix rfl (by decide) (by decide) (by decide +kernel) []
    rw [text, trim_append_of_trimmed (by decide) (by decide)] at closed
    simp at closed
  · have closed : ¬ "union".toList <+: trim decl.type ++ [] :=
      chars.not_isPrefix rfl (by decide) (by decide) (by decide +kernel) []
    rw [text, trim_append_of_trimmed (by decide) (by decide)] at closed
    simp at closed

theorem IsAggregate.ne_bool (aggregate : decl.IsAggregate) :
    ¬ (decl.type = "bool".toList ∨ decl.type = "_Bool".toList) := by
  rcases aggregate.word with ⟨rest, text, -⟩ | ⟨rest, text, -⟩ <;>
    · rw [text]
      simp

end CDecl

namespace KernelType
open Text CDecl
variable {decl : CDecl} {size : UInt16} {signed : Bool}

theorem ofPointee?_eq_none_iff {pointee : List Char} :
    ofPointee? pointee size = none ↔ ¬ SpellsChar pointee ∧ size ≠ 4 ∧ size ≠ 8 := by
  rw [← isCharType_iff, ofPointee?]
  by_cases chars : isCharType pointee = true <;> by_cases four : size = 4 <;>
    by_cases eight : size = 8 <;> simp [chars, four, eight]

/-- A plain value of another size than those of integers has no layout. -/
theorem ofScalar?_eq_none {type : List Char} (odd : ∀ width : Width, size.toNat ≠ width.bytes) :
    ofScalar? type size signed = none := by
  rw [ofScalar?, Width.ofBytes?_eq_none_iff.mpr odd]
  split
  · have byte : size ≠ 1 := by
      rintro rfl
      exact odd .w8 rfl
    rw [if_neg byte]
  · rfl

section Plain
variable (plain : ¬ "__data_loc".toList <+: decl.type)
include plain

theorem ofDecl?_of_not_isDirect (indirect : ¬ decl.IsDirect) :
    ofDecl? decl size signed = ofPointee? decl.pointee size := by
  have pointer : decl.isPointer = true :=
    eq_true_of_ne_false (mt isPointer_eq_false_iff_isDirect.mp indirect)
  simp only [ofDecl?, dynamicElement?_eq_none_iff.mpr plain, pointer, if_true]

theorem ofDecl?_of_isOtherArray (direct : decl.IsDirect) (array : decl.IsOtherArray) :
    ofDecl? decl size signed = none := by
  obtain ⟨text, extent⟩ := Option.ne_none_iff_exists'.mp
    (mt extent?_eq_none_iff.mp (not_not_intro array.bracket))
  have other : isCharType decl.type = false :=
    Bool.eq_false_iff.mpr (mt isCharType_iff.mp (array.elements direct))
  simp [ofDecl?, dynamicElement?_eq_none_iff.mpr plain, extent, other,
    isPointer_eq_false_iff_isDirect.mpr direct]

theorem ofDecl?_of_isScalar (scalar : decl.IsScalar) :
    ofDecl? decl size signed = ofScalar? decl.type size signed := by
  simp [ofDecl?, dynamicElement?_eq_none_iff.mpr plain, extent?_eq_none_iff.mpr scalar.noBracket,
    isPointer_eq_false_iff_isDirect.mpr scalar.toIsDirect]

theorem ofDecl?_eq_none_iff_of_isAggregate (aggregate : decl.IsAggregate) :
    ofDecl? decl size signed = none ↔
      '[' ∈ decl.declarator ∨ ∀ width : Width, size.toNat ≠ width.bytes := by
  by_cases bracket : '[' ∈ decl.declarator
  · have array : decl.IsOtherArray := ⟨bracket, fun _ => aggregate.not_spellsChar⟩
    exact iff_of_true (ofDecl?_of_isOtherArray plain aggregate.toIsDirect array) (.inl bracket)
  · rw [ofDecl?_of_isScalar plain ⟨aggregate.toIsDirect, bracket⟩, ofScalar?,
      if_neg aggregate.ne_bool, Option.map_eq_none_iff, Width.ofBytes?_eq_none_iff]
    simp [bracket]

theorem ofDecl?_eq_none_iff_of_isOtherArray (array : decl.IsOtherArray) :
    ofDecl? decl size signed = none ↔
      decl.IsDirect ∨ ¬ SpellsChar decl.pointee ∧ size ≠ 4 ∧ size ≠ 8 := by
  by_cases direct : decl.IsDirect
  · exact iff_of_true (ofDecl?_of_isOtherArray plain direct array) (.inl direct)
  · rw [ofDecl?_of_not_isDirect plain direct, ofPointee?_eq_none_iff]
    simp [direct]

end Plain

/-- Structs and unions that stand in a record are refused exactly if they are arrays or no integer
has their size, and plain values if no integer has their size. Arrays of anything but characters are
refused exactly if they have no star, or if they point to no characters and no address has
their size. So an array of pointers to characters is read as one such pointer at every size. -/
theorem infer_refuses {declaration : String} (splits : Splits declaration.toList decl)
    (plain : ¬ "__data_loc".toList <+: decl.type) (size : UInt16) (signed : Bool) :
    (decl.IsAggregate → (infer declaration size signed = none ↔
      '[' ∈ decl.declarator ∨ ∀ width : Width, size.toNat ≠ width.bytes)) ∧
    (decl.IsOtherArray → (infer declaration size signed = none ↔
      decl.IsDirect ∨ ¬ SpellsChar decl.pointee ∧ size ≠ 4 ∧ size ≠ 8)) ∧
    (decl.IsScalar → (∀ width : Width, size.toNat ≠ width.bytes) →
      infer declaration size signed = none) := by
  have inferred : infer declaration size signed = ofDecl? decl size signed := by
    rw [infer, ofText?_of_splits splits, Option.bind_some]
  rw [inferred]
  refine ⟨ofDecl?_eq_none_iff_of_isAggregate plain, ofDecl?_eq_none_iff_of_isOtherArray plain, ?_⟩
  intro scalar odd
  rw [ofDecl?_of_isScalar plain scalar]
  exact ofScalar?_eq_none odd

theorem infer_refuses_sample :
    Splits "union ktime * const stamps[2]".toList
        ⟨"union ktime * const".toList, "stamps[2]".toList⟩ ∧
      ¬ "__data_loc".toList <+: "union ktime * const".toList ∧
      infer "union ktime * const stamps[2]" 16 false = none := by
  have splits : Splits "union ktime * const stamps[2]".toList
      ⟨"union ktime * const".toList, "stamps[2]".toList⟩ := splits_of_ofText? (by decide)
  have plain : ¬ "__data_loc".toList <+: "union ktime * const".toList := by decide +kernel
  obtain ⟨-, arrays, -⟩ := infer_refuses splits plain 16 false
  have array : CDecl.IsOtherArray ⟨"union ktime * const".toList, "stamps[2]".toList⟩ :=
    ⟨by decide, fun direct => absurd direct.noStar (by decide)⟩
  refine ⟨splits, plain, (arrays array).mpr (.inr ⟨?_, by decide, by decide⟩)⟩
  rw [← isCharType_iff]
  decide

/-- A struct of four bytes is read as an integer, an array of pointers as one pointer, and an array
of pointers to characters as one such pointer, although it has the size of four. -/
theorem infer_reads_aggregate :
    Splits "struct in_addr saddr".toList ⟨"struct in_addr".toList, "saddr".toList⟩ ∧
      CDecl.IsAggregate ⟨"struct in_addr".toList, "saddr".toList⟩ ∧
      infer "struct in_addr saddr" 4 false = some (.integer ⟨.w32, false⟩) ∧
    Splits "unsigned long *args[1]".toList ⟨"unsigned long".toList, "*args[1]".toList⟩ ∧
      CDecl.IsOtherArray ⟨"unsigned long".toList, "*args[1]".toList⟩ ∧
      infer "unsigned long *args[1]" 8 false = some .pointer64 ∧
    Splits "char *names[4]".toList ⟨"char".toList, "*names[4]".toList⟩ ∧
      CDecl.IsOtherArray ⟨"char".toList, "*names[4]".toList⟩ ∧
      infer "char *names[4]" 32 false = some .charPointer := by
  have opens : CDecl.OpensWith "struct in_addr".toList "struct" := by
    refine ⟨" in_addr".toList, by decide, fun c first => ?_⟩
    have blank : " in_addr".toList.head? = some ' ' := by decide
    obtain rfl := Option.some.inj (blank.symm.trans first)
    rfl
  refine ⟨splits_of_ofText? (by decide), ⟨⟨by decide, by decide⟩, .inl opens⟩, by decide,
    splits_of_ofText? (by decide), ⟨by decide, fun direct => absurd rfl direct.noPointer⟩,
    by decide, splits_of_ofText? (by decide),
    ⟨by decide, fun direct => absurd rfl direct.noPointer⟩, by decide⟩

end KernelType

end TraceLayout
