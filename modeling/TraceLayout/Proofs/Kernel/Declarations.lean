import TraceLayout.Proofs.Kernel.Characters
import TraceLayout.Proofs.Text.Offsets

/-! How declarations are cut, over all texts. A declaration of several words is cut in front of the
last one, whatever white space stands there. Made by byte offsets, this cut and those at the bracket
behind a name are always between two characters. -/
namespace TraceLayout

namespace CDecl
open Text

/-- A text that is written, and has no white space at its ends. -/
structure IsTrimmed (text : List Char) : Prop where
  written : text ≠ []
  trimmed : trim text = text

structure IsGap (gap : List Char) : Prop where
  written : gap ≠ []
  blank : ∀ c ∈ gap, isBlank c = true

structure IsWord (word : List Char) : Prop where
  written : word ≠ []
  solid : ∀ c ∈ word, isBlank c = false

/-- A trimmed declaration is a type, white space, and one word. -/
structure IsCut (declaration : List Char) (decl : CDecl) : Prop where
  type : IsTrimmed decl.type
  declarator : IsWord decl.declarator
  text : ∃ gap, IsGap gap ∧ trim declaration = decl.type ++ (gap ++ decl.declarator)

/-- The name of a field as it is read from a declaration. It is empty where there is none. -/
structure IsBareName (name : List Char) : Prop where
  solid : ∀ c ∈ name, isBlank c = false
  noStar : name.head? ≠ some '*'
  noBracket : '[' ∉ name

/-- A name that a declaration can give to a field. -/
structure IsIdentifier (name : List Char) : Prop extends IsWord name where
  noStar : '*' ∉ name
  noBracket : '[' ∉ name

/-- What may follow a name: nothing, or brackets without white space. -/
structure IsSuffix (suffix : List Char) : Prop where
  opens : suffix ≠ [] → suffix.head? = some '['
  solid : ∀ c ∈ suffix, isBlank c = false

section Decidable
variable (text : List Char)

instance : Decidable (IsTrimmed text) :=
  decidable_of_iff (text ≠ [] ∧ trim text = text)
    ⟨fun h => ⟨h.1, h.2⟩, fun h => ⟨h.written, h.trimmed⟩⟩

instance : Decidable (IsGap text) :=
  decidable_of_iff (text ≠ [] ∧ text.all isBlank = true)
    ⟨fun h => ⟨h.1, List.all_eq_true.mp h.2⟩, fun h => ⟨h.written, List.all_eq_true.mpr h.blank⟩⟩

instance : Decidable (IsWord text) :=
  decidable_of_iff (text ≠ [] ∧ text.all (!isBlank ·) = true)
    ⟨fun h => ⟨h.1, by simpa using h.2⟩, fun h => ⟨h.written, by simpa using h.solid⟩⟩

instance : Decidable (IsIdentifier text) :=
  decidable_of_iff (IsWord text ∧ '*' ∉ text ∧ '[' ∉ text)
    ⟨fun h => ⟨h.1, h.2.1, h.2.2⟩, fun h => ⟨h.toIsWord, h.noStar, h.noBracket⟩⟩

instance : Decidable (IsSuffix text) :=
  decidable_of_iff ((text ≠ [] → text.head? = some '[') ∧ text.all (!isBlank ·) = true)
    ⟨fun h => ⟨h.1, by simpa using h.2⟩, fun h => ⟨h.opens, by simpa using h.solid⟩⟩

end Decidable

/-- Cuts a declaration at the byte offset of its last white space, if both parts are written. -/
def cutByOffset (declaration : List Char) : Except CutFault (Option CDecl) :=
  match lastOffset? isBlank (trim declaration) with
  | none => .ok none
  | some offset =>
    (cutAt (trim declaration) offset).map fun parts =>
      if trim parts.1 = [] ∨ trim parts.2 = [] then none
      else some ⟨trim parts.1, trim parts.2⟩

/-- Cuts a name off at the byte offset of its first bracket. -/
def bareNameByOffset (declarator : List Char) : Except CutFault (List Char) :=
  let word := declarator.dropWhile (· == '*')
  match firstOffset? (· == '[') word with
  | none => .ok word
  | some offset => (cutAt word offset).map Prod.fst

def nameByOffset (declaration : List Char) : Except CutFault (List Char) :=
  (cutByOffset declaration).bind fun
    | some decl => bareNameByOffset decl.declarator
    | none => bareNameByOffset (trim declaration)

variable {declaration : List Char} {decl : CDecl}

theorem Splits.isCut (splits : Splits declaration decl) : IsCut declaration decl := by
  obtain ⟨gap, written, blank, text⟩ := splits.text
  obtain ⟨b, more, rfl⟩ := List.exists_cons_of_ne_nil written
  have parts : trim declaration = decl.type ++ b :: (more ++ decl.declarator) := text
  obtain ⟨front, back⟩ := written_around parts (blank b List.mem_cons_self)
  refine ⟨⟨?_, trim_of_isPrefix ⟨_, text.symm⟩ splits.type⟩, ⟨?_, splits.declarator⟩,
    _, ⟨written, blank⟩, text⟩
  · intro none_
    rw [none_] at front
    exact front rfl
  · intro none_
    rw [none_, List.append_nil] at back
    exact back (trim_eq_nil_iff.mpr fun c member => blank c (List.mem_cons_of_mem b member))

theorem IsCut.splits (cut : IsCut declaration decl) : Splits declaration decl where
  text := by
    obtain ⟨gap, between, text⟩ := cut.text
    exact ⟨gap, between.written, between.blank, text⟩
  type := cut.type.trimmed ▸ getLast?_trim decl.type
  declarator := cut.declarator.solid

theorem ofText?_eq_some_iff_isCut : ofText? declaration = some decl ↔ IsCut declaration decl :=
  ofText?_eq_some_iff.trans ⟨Splits.isCut, IsCut.splits⟩

theorem ofText?_eq_none_iff :
    ofText? declaration = none ↔ ∀ c ∈ trim declaration, isBlank c = false := by
  simp [ofText?_eq, List.rdropWhile_eq_nil_iff]

/-- Both parts of a cut are always written. -/
theorem cutByOffset_eq (declaration : List Char) :
    cutByOffset declaration = .ok (ofText? declaration) := by
  by_cases spaced : ∃ c ∈ trim declaration, isBlank c = true
  · obtain ⟨early, b, late, text, blank, solid⟩ := exists_last_blank spaced
    obtain ⟨front, back⟩ := written_around text blank
    have word : trim (b :: late) = late := by
      rw [trim_cons_of_blank blank, trim_of_notBlank solid]
    rw [trim_of_notBlank solid] at back
    have splits : Splits (trim declaration) ⟨trim early, late⟩ :=
      text ▸ splits_append_cons front blank back solid
    have cut : ofText? declaration = some ⟨trim early, late⟩ := by
      rw [← ofText?_of_splits splits, ofText?, ofText?, trim_trim]
    rw [cutByOffset, text, lastOffset?_append_cons blank solid, cut]
    simp [cutAt_append, Except.map, word, front, back]
  · have solid : ∀ c ∈ trim declaration, isBlank c = false := by simpa using spaced
    rw [cutByOffset, lastOffset?_eq_none_iff.mpr solid, ofText?_eq_none_iff.mpr solid]

theorem bareNameByOffset_eq (declarator : List Char) :
    bareNameByOffset declarator = .ok (bareName declarator) := by
  rw [bareNameByOffset, bareName]
  generalize declarator.dropWhile (· == '*') = word
  by_cases bracket : '[' ∈ word
  · obtain ⟨name, rest, rfl, absent⟩ := List.eq_append_cons_of_mem bracket
    simp [firstOffset?_append_cons absent, cutAt_append, Except.map,
      List.takeWhile_append_of_pos (bne_of_notMem absent)]
  · simp [firstOffset?_of_notMem bracket,
      List.takeWhile_eq_self_iff.mpr (bne_of_notMem bracket)]

theorem nameByOffset_eq (declaration : List Char) :
    nameByOffset declaration = .ok (nameOf declaration) := by
  rw [nameByOffset, cutByOffset_eq, nameOf]
  cases ofText? declaration <;> exact bareNameByOffset_eq _

theorem isBareName_bareName {word : List Char} (solid : ∀ c ∈ word, isBlank c = false) :
    IsBareName (bareName word) where
  solid c member := by
    have inner := (List.takeWhile_sublist _).subset member
    exact solid c ((List.dropWhile_sublist _).subset inner)
  noStar star := by
    rw [bareName, List.head?_takeWhile, Option.filter_eq_some_iff] at star
    have other := List.head?_dropWhile_not (· == '*') word
    rw [star.1] at other
    contradiction
  noBracket member := by
    have other := List.mem_takeWhile_imp member
    contradiction

theorem IsBareName.bareName_eq {name : List Char} (bare : IsBareName name) :
    bareName name = name := by
  rw [bareName_of_notMem bare.noBracket]
  cases name with
  | nil => rfl
  | cons c rest => exact List.dropWhile_cons_of_neg (by simpa using bare.noStar)

/-- Every name is read from a text without white space. -/
theorem isBareName_nameOf (declaration : List Char) : IsBareName (nameOf declaration) := by
  cases cut : ofText? declaration with
  | none =>
    rw [nameOf, cut]
    exact isBareName_bareName (ofText?_eq_none_iff.mp cut)
  | some decl =>
    have splits := splits_of_ofText? cut
    rw [nameOf_of_splits splits]
    exact isBareName_bareName splits.declarator

theorem IsBareName.nameOf_eq {name : List Char} (bare : IsBareName name) : nameOf name = name := by
  have trimmed := trim_of_notBlank bare.solid
  have whole : ofText? name = none := ofText?_eq_none_iff.mpr (trimmed.symm ▸ bare.solid)
  rw [nameOf, whole, trimmed, bare.bareName_eq]

section Written
variable {type gap word name suffix : List Char}

/-- A declaration as it is written is cut where it was put together. -/
theorem splits_append (typed : IsTrimmed type) (between : IsGap gap) (declared : IsWord word) :
    Splits (type ++ (gap ++ word)) ⟨type, word⟩ := by
  obtain ⟨early, b, rfl⟩ := (List.eq_nil_or_concat' gap).resolve_left between.written
  have blank : ∀ c ∈ early, isBlank c = true := fun c member =>
    between.blank c (List.mem_append_left [b] member)
  have front : trim (type ++ early) = type := by rw [trim_append_of_blank blank, typed.trimmed]
  have written : trim (type ++ early) ≠ [] := front.symm ▸ typed.written
  have splits := splits_append_cons written (between.blank b (by simp)) declared.written
    declared.solid
  simpa [front] using splits

theorem IsIdentifier.bareName_append (identifier : IsIdentifier name) (ends : IsSuffix suffix) :
    bareName (name ++ suffix) = name := by
  cases suffix with
  | nil =>
    have bare : IsBareName name :=
      ⟨identifier.solid, fun first => identifier.noStar (List.mem_of_head? first),
        identifier.noBracket⟩
    rw [List.append_nil, bare.bareName_eq]
  | cons c rest =>
    obtain rfl := Option.some.inj (ends.opens (List.cons_ne_nil c rest))
    exact bareName_append_bracket identifier.noStar identifier.noBracket rest

theorem bareName_stars (stars : Nat) (word : List Char) :
    bareName (List.replicate stars '*' ++ word) = bareName word := by
  rw [bareName, List.dropWhile_append_of_pos, bareName]
  intro c member
  exact beq_iff_eq.mpr (List.eq_of_mem_replicate member)

theorem IsIdentifier.isWord_declarator (identifier : IsIdentifier name) (ends : IsSuffix suffix)
    (stars : Nat) : IsWord (List.replicate stars '*' ++ (name ++ suffix)) where
  written := by simp [identifier.written]
  solid c member := by
    rcases List.mem_append.mp member with star | member
    · rw [List.eq_of_mem_replicate star]
      rfl
    rcases List.mem_append.mp member with own | behind
    · exact identifier.solid c own
    · exact ends.solid c behind

theorem nameOf_append (typed : IsTrimmed type) (between : IsGap gap) (stars : Nat)
    (identifier : IsIdentifier name) (ends : IsSuffix suffix) :
    nameOf (type ++ (gap ++ (List.replicate stars '*' ++ (name ++ suffix)))) = name := by
  have splits := splits_append typed between (identifier.isWord_declarator ends stars)
  rw [nameOf_of_splits splits, bareName_stars, identifier.bareName_append ends]

end Written

end CDecl

namespace KernelType
open Text CDecl

/-- The layout of a declared field, where the extent of an array is cut off behind the byte of its
first bracket. -/
def ofDeclByOffset (decl : CDecl) (size : UInt16) (signed : Bool) :
    Except CutFault (Option KernelType) :=
  match decl.dynamicElement? with
  | some element => .ok (if isCharType element then some .dataLoc else none)
  | none =>
    if decl.isPointer then .ok (ofPointee? decl.pointee size)
    else match firstOffset? (· == '[') decl.declarator with
      | none => .ok (ofScalar? decl.type size signed)
      | some offset =>
        if isCharType decl.type then
          (cutAt decl.declarator (offset + 1)).map fun parts =>
            ofExtent? (trim (dropEndWhile (· == ']') parts.2)) size
        else .ok none

def inferByOffset (declaration : String) (size : UInt16) (signed : Bool) :
    Except CutFault (Option KernelType) :=
  (cutByOffset declaration.toList).bind fun
    | some decl => ofDeclByOffset decl size signed
    | none => .ok none

theorem ofDeclByOffset_eq (decl : CDecl) (size : UInt16) (signed : Bool) :
    ofDeclByOffset decl size signed = .ok (ofDecl? decl size signed) := by
  unfold ofDeclByOffset ofDecl?
  cases decl.dynamicElement? with
  | some element => rfl
  | none =>
    by_cases pointer : decl.isPointer = true
    · simp [pointer]
    by_cases bracket : '[' ∈ decl.declarator
    · obtain ⟨name, extent, text, absent⟩ := List.eq_append_cons_of_mem bracket
      have found : firstOffset? (· == '[') decl.declarator = some (byteSize name) :=
        text ▸ firstOffset?_append_cons absent extent
      -- The bracket takes one byte, so the next byte begins a character or ends the text.
      have behind : cutAt decl.declarator (byteSize name + 1) = .ok (name ++ ['['], extent) :=
        text ▸ cutAt_behind name '[' extent
      have read := extent?_eq_some_iff.mpr ⟨name, extent, absent, text, rfl⟩
      cases chars : isCharType decl.type <;> simp [pointer, found, behind, read, Except.map]
    · simp [pointer, firstOffset?_of_notMem bracket, extent?_eq_none_iff.mpr bracket]

theorem inferByOffset_eq (declaration : String) (size : UInt16) (signed : Bool) :
    inferByOffset declaration size signed = .ok (infer declaration size signed) := by
  rw [inferByOffset, cutByOffset_eq, infer]
  cases ofText? declaration.toList with
  | none => rfl
  | some decl => exact ofDeclByOffset_eq decl size signed

end KernelType

namespace CDecl
open Text

/-- A declaration has a cut exactly if it is a type, white space and a word, and it has none exactly
if there is no white space inside. A text can be cut at byte offsets between characters only, and a
cut by offsets is always made at such, and is the same cut. A name has neither white space nor
brackets nor a star in front, is its own name, and is the one that a declaration was written with.
-/
theorem ofText?_cuts :
    (∀ declaration decl, ofText? declaration = some decl ↔ IsCut declaration decl) ∧
    (∀ declaration, ofText? declaration = none ↔ ∀ c ∈ trim declaration, isBlank c = false) ∧
    (∀ text front back offset, cutAt text offset = .ok (front, back) ↔
      text = front ++ back ∧ offset = byteSize front) ∧
    (∀ declaration, cutByOffset declaration = .ok (ofText? declaration) ∧
      nameByOffset declaration = .ok (nameOf declaration)) ∧
    (∀ declaration size signed, KernelType.inferByOffset declaration size signed =
      .ok (KernelType.infer declaration size signed)) ∧
    (∀ declaration, IsBareName (nameOf declaration) ∧
      nameOf (nameOf declaration) = nameOf declaration) ∧
    ∀ type gap stars name suffix, IsTrimmed type → IsGap gap → IsIdentifier name →
      IsSuffix suffix →
      nameOf (type ++ (gap ++ (List.replicate stars '*' ++ (name ++ suffix)))) = name := by
  refine ⟨fun _ _ => ofText?_eq_some_iff_isCut, fun _ => ofText?_eq_none_iff,
    fun _ _ _ _ => cutAt_eq_ok_iff, ?_, KernelType.inferByOffset_eq, ?_, ?_⟩
  · intro declaration
    exact ⟨cutByOffset_eq declaration, nameByOffset_eq declaration⟩
  · intro declaration
    have bare := isBareName_nameOf declaration
    exact ⟨bare, bare.nameOf_eq⟩
  · intro type gap stars name suffix typed between identifier ends
    exact nameOf_append typed between stars identifier ends

/-- White space of three bytes stands in the type and behind it, and a star stands in the extent. -/
theorem ofText?_cuts_sample :
    IsTrimmed "struct\u2003größe".toList ∧ IsGap "\t\u3000".toList ∧ IsIdentifier "字".toList ∧
      IsSuffix "[2*×][]".toList ∧
      nameOf "struct\u2003größe\t\u3000**字[2*×][]".toList = "字".toList ∧
      nameByOffset "struct\u2003größe\t\u3000**字[2*×][]".toList = .ok "字".toList := by
  have typed : IsTrimmed "struct\u2003größe".toList := by decide
  have between : IsGap "\t\u3000".toList := by decide
  have identifier : IsIdentifier "字".toList := by decide
  have ends : IsSuffix "[2*×][]".toList := by decide
  have written : "struct\u2003größe\t\u3000**字[2*×][]".toList =
      "struct\u2003größe".toList ++ ("\t\u3000".toList ++
        (List.replicate 2 '*' ++ ("字".toList ++ "[2*×][]".toList))) := by decide
  obtain ⟨-, -, -, offsets, -, -, names⟩ := ofText?_cuts
  have named : nameOf "struct\u2003größe\t\u3000**字[2*×][]".toList = "字".toList := by
    rw [written]
    exact names _ _ 2 _ _ typed between identifier ends
  have cut := (offsets "struct\u2003größe\t\u3000**字[2*×][]".toList).2
  rw [named] at cut
  exact ⟨typed, between, identifier, ends, named, cut⟩

end CDecl

end TraceLayout
