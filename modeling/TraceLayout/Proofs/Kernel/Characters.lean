import TraceLayout.Kernel.KernelType
import TraceLayout.Proofs.Text.Trim

/-! Which declarations put characters into a record. A type with a pointer star in it, and a name
with one before it, holds an address at most. -/
namespace TraceLayout

namespace CDecl
open Text

/-- A declaration is cut into a type, white space, and a declarator without white space. -/
structure Splits (declaration : List Char) (decl : CDecl) : Prop where
  text : ∃ blanks, blanks ≠ [] ∧ (∀ c ∈ blanks, isBlank c = true) ∧
    trim declaration = decl.type ++ (blanks ++ decl.declarator)
  type : ∀ c ∈ decl.type.getLast?, isBlank c = false
  declarator : ∀ c ∈ decl.declarator, isBlank c = false

theorem ofText?_eq (cs : List Char) :
    ofText? cs =
      if (trim cs).rdropWhile (!isBlank ·) = [] then none
      else some ⟨dropEndWhile isBlank ((trim cs).rdropWhile (!isBlank ·)),
        (trim cs).rtakeWhile (!isBlank ·)⟩ := by
  unfold ofText? List.rdropWhile List.rtakeWhile
  simp only
  split
  · rename_i none_
    rw [none_]
    rfl
  · rename_i some_
    rw [if_neg (by simpa using some_)]

theorem splits_of_ofText? {cs : List Char} {decl : CDecl} (found : ofText? cs = some decl) :
    Splits cs decl := by
  rw [ofText?_eq] at found
  split at found
  · contradiction
  rename_i written
  obtain rfl := Option.some.inj found
  have parts := List.rdropWhile_append_rtakeWhile (p := (!isBlank ·)) (l := trim cs)
  refine ⟨⟨((trim cs).rdropWhile (!isBlank ·)).rtakeWhile isBlank, ?_, ?_, ?_⟩, ?_, ?_⟩
  · rw [ne_eq, List.rtakeWhile_eq_nil_iff]
    intro solid
    have ends := List.rdropWhile_last_not _ _ written
    exact ends (by simpa using solid written)
  · exact fun c => List.mem_rtakeWhile_imp
  · rw [← List.append_assoc]
    exact ((congrArg (· ++ _) List.rdropWhile_append_rtakeWhile).trans parts).symm
  · exact dropEndWhile_eq_self_iff.mp (List.rdropWhile_idempotent _ _)
  · intro c member
    simpa using List.mem_rtakeWhile_imp member

theorem ofText?_of_splits {cs : List Char} {decl : CDecl} (splits : Splits cs decl) :
    ofText? cs = some decl := by
  obtain ⟨⟨blanks, written, blank, text⟩, type, declarator⟩ := splits
  have noType : dropEndWhile isBlank blanks = [] := dropEndWhile_eq_nil_iff.mpr blank
  have noWord : dropEndWhile (!isBlank ·) decl.declarator = [] :=
    dropEndWhile_eq_nil_iff.mpr fun c member => by rw [declarator c member, Bool.not_false]
  have ends : dropEndWhile (!isBlank ·) (decl.type ++ blanks) = decl.type ++ blanks := by
    apply dropEndWhile_eq_self_iff.mpr
    intro c last
    rw [List.getLast?_append_of_ne_nil _ written] at last
    rw [blank c (List.mem_of_getLast? last), Bool.not_true]
  have front : (trim cs).rdropWhile (!isBlank ·) = decl.type ++ blanks := by
    rw [text, ← List.append_assoc]
    exact (dropEndWhile_append _ _ _).trans (by rw [if_pos noWord, ends])
  have back : (trim cs).rtakeWhile (!isBlank ·) = decl.declarator := by
    have parts := List.rdropWhile_append_rtakeWhile (p := (!isBlank ·)) (l := trim cs)
    rw [front] at parts
    exact List.append_cancel_left (parts.trans (text.trans (List.append_assoc _ _ _).symm))
  rw [ofText?_eq, front, back, dropEndWhile_append, if_pos noType,
    dropEndWhile_eq_self_iff.mpr type, if_neg (by simp [written])]

/-- A declaration has one split at most, and it is cut there. -/
theorem ofText?_eq_some_iff {cs : List Char} {decl : CDecl} :
    ofText? cs = some decl ↔ Splits cs decl :=
  ⟨splits_of_ofText?, ofText?_of_splits⟩

/-- A declaration is cut before its last word. -/
theorem splits_append_cons {front word : List Char} {b : Char} (written : trim front ≠ [])
    (blank : isBlank b = true) (some_ : word ≠ []) (solid : ∀ c ∈ word, isBlank c = false) :
    Splits (front ++ b :: word) ⟨trim front, word⟩ := by
  have ends : ∀ c ∈ (b :: word).getLast?, isBlank c = false := by
    intro c last
    rw [List.getLast?_cons_of_ne_nil some_] at last
    exact solid c (List.mem_of_getLast? last)
  obtain ⟨blanks, allBlank, text⟩ := exists_trim_append written (List.cons_ne_nil b word) ends
  refine ⟨⟨blanks ++ [b], by simp, ?_, by simpa using text⟩, getLast?_trim front, solid⟩
  intro c member
  rcases List.mem_append.mp member with earlier | own
  · exact allBlank c earlier
  · exact List.mem_singleton.mp own ▸ blank

theorem nameOf_of_splits {declaration : List Char} {decl : CDecl}
    (splits : Splits declaration decl) : nameOf declaration = bareName decl.declarator := by
  rw [nameOf, ofText?_of_splits splits]

theorem bne_of_notMem {mark : Char} {cs : List Char} (absent : mark ∉ cs) :
    ∀ c ∈ cs, (c != mark) = true := by
  intro c member
  simpa using ne_of_mem_of_not_mem member absent

theorem bareName_append_bracket {name : List Char} (noStar : '*' ∉ name) (noBracket : '[' ∉ name)
    (rest : List Char) : bareName (name ++ '[' :: rest) = name := by
  have kept : (name ++ '[' :: rest).dropWhile (· == '*') = name ++ '[' :: rest := by
    cases name with
    | nil => rfl
    | cons c name =>
      rw [List.cons_append, List.dropWhile_cons_of_neg (by simp; rintro rfl; simp at noStar)]
  rw [bareName, kept, List.takeWhile_append_of_pos (bne_of_notMem noBracket),
    List.takeWhile_cons_of_neg (by decide), List.append_nil]

theorem bareName_of_notMem {word : List Char} (noBracket : '[' ∉ word) :
    bareName word = word.dropWhile (· == '*') := by
  have inner : '[' ∉ word.dropWhile (· == '*') := fun member =>
    noBracket ((List.dropWhile_sublist _).subset member)
  exact List.takeWhile_eq_self_iff.mpr (bne_of_notMem inner)

/-- All of a declarator without brackets is its name, but for the stars. -/
theorem mem_bareName {declarator : List Char} {c : Char} (noBracket : '[' ∉ declarator)
    (member : c ∈ declarator) (other : c ≠ '*') : c ∈ bareName declarator := by
  have kept : c ∈ declarator.dropWhile (· == '*') := by
    rw [← @List.takeWhile_append_dropWhile _ (· == '*') declarator, List.mem_append] at member
    refine member.resolve_left fun star => other ?_
    simpa using List.mem_takeWhile_imp star
  rwa [bareName_of_notMem noBracket]

/-- Some copies of a mark, one behind the other. -/
def copies (n : Nat) (mark : List Char) : List Char := (List.replicate n mark).flatten

theorem copies_succ (n : Nat) (mark : List Char) : copies (n + 1) mark = mark ++ copies n mark := by
  rw [copies, List.replicate_succ, List.flatten_cons, copies]

/-- A function drops a mark as long as the text opens with it. -/
structure DropsCopies (mark : List Char) (drop : List Char → List Char) : Prop where
  again : ∀ rest, drop (mark ++ rest) = drop rest
  stop : ∀ cs, ¬ mark <+: cs → drop cs = cs

section Copies
variable {mark : List Char} {drop : List Char → List Char} (drops : DropsCopies mark drop)
include drops

theorem DropsCopies.append (n : Nat) (rest : List Char) :
    drop (copies n mark ++ rest) = drop rest := by
  induction n with
  | zero => rfl
  | succ n ih => rw [copies_succ, List.append_assoc, drops.again, ih]

theorem DropsCopies.exists_eq (written : mark ≠ []) (cs : List Char) :
    ∃ n, cs = copies n mark ++ drop cs := by
  induction length : cs.length using Nat.strongRecOn generalizing cs with
  | ind size ih =>
    by_cases opens : mark <+: cs
    · obtain ⟨rest, rfl⟩ := opens
      have shorter : rest.length < size := by
        rw [← length, List.length_append]
        exact Nat.lt_add_of_pos_left (List.length_pos_of_ne_nil written)
      obtain ⟨n, same⟩ := ih _ shorter rest rfl
      refine ⟨n + 1, ?_⟩
      rw [drops.again, copies_succ, List.append_assoc, ← same]
    · exact ⟨0, (drops.stop cs opens).symm⟩

end Copies

theorem dropsCopies_dropConst : DropsCopies "const ".toList dropConst := by
  constructor
  · exact fun _ => rfl
  · intro cs closed
    unfold dropConst
    split
    · exact absurd ⟨_, rfl⟩ closed
    · rfl

theorem dropsCopies_dropVolatile : DropsCopies "volatile ".toList dropVolatile := by
  constructor
  · exact fun _ => rfl
  · intro cs closed
    unfold dropVolatile
    split
    · exact absurd ⟨_, rfl⟩ closed
    · rfl

/-- A type spells a character type, behind any `const` and then any `volatile`. -/
def SpellsChar (type : List Char) : Prop :=
  ∃ consts volatiles blanks, ∃ spelling ∈ charTypes, (∀ c ∈ blanks, isBlank c = true) ∧
    trim type = copies consts "const ".toList ++ (copies volatiles "volatile ".toList ++
      (blanks ++ spelling.toList))

theorem trim_spelling : ∀ spelling ∈ charTypes,
    spelling.toList ≠ [] ∧ trim spelling.toList = spelling.toList := by decide

/-- No spelling of a character type opens with a qualifier. -/
theorem unqualified_spelling : ∀ spelling ∈ charTypes,
    ¬ "const ".toList <+: spelling.toList ∧ ¬ "volatile ".toList <+: spelling.toList := by
  decide +kernel

theorem not_isPrefix_append {c : Char} {mark blanks rest : List Char} (solid : isBlank c = false)
    (blank : ∀ c ∈ blanks, isBlank c = true) (closed : ¬ c :: mark <+: rest) :
    ¬ c :: mark <+: blanks ++ rest := by
  cases blanks with
  | nil => exact closed
  | cons b blanks =>
    intro opens
    obtain ⟨rfl, -⟩ := List.cons_prefix_cons.mp opens
    have clash := solid.symm.trans (blank c List.mem_cons_self)
    contradiction

theorem isCharType_iff {type : List Char} : isCharType type = true ↔ SpellsChar type := by
  rw [isCharType, List.any_eq_true]
  constructor
  · rintro ⟨spelling, listed, same⟩
    have same := beq_iff_eq.mp same
    obtain ⟨consts, outer⟩ := dropsCopies_dropConst.exists_eq (by decide) (trim type)
    obtain ⟨volatiles, inner⟩ := dropsCopies_dropVolatile.exists_eq (by decide)
      (dropConst (trim type))
    have text := outer.trans (congrArg (copies consts _ ++ ·) inner)
    obtain ⟨blanks, blank, core⟩ := exists_eq_append_trim
      (text.trans (List.append_assoc _ _ _).symm) (same ▸ (trim_spelling spelling listed).1)
    rw [← same] at core
    exact ⟨consts, volatiles, blanks, spelling, listed, blank, core ▸ text⟩
  · rintro ⟨consts, volatiles, blanks, spelling, listed, blank, text⟩
    refine ⟨spelling, listed, beq_iff_eq.mpr ?_⟩
    obtain ⟨-, trimmed⟩ := trim_spelling spelling listed
    obtain ⟨noConst, noVolatile⟩ := unqualified_spelling spelling listed
    have noVolatile := not_isPrefix_append rfl blank noVolatile
    have unqualified := not_isPrefix_append rfl blank noConst
    have noConst : ¬ "const ".toList <+:
        copies volatiles "volatile ".toList ++ (blanks ++ spelling.toList) := by
      cases volatiles with
      | zero => exact unqualified
      | succ volatiles =>
        rintro ⟨rest, same⟩
        exact absurd (congrArg List.head? same) (by simp [copies_succ])
    rw [text, dropsCopies_dropConst.append, dropsCopies_dropConst.stop _ noConst,
      dropsCopies_dropVolatile.append, dropsCopies_dropVolatile.stop _ noVolatile, trim,
      List.dropWhile_append_of_pos blank]
    exact trimmed.symm

section SpellsChar
variable {type : List Char} (chars : SpellsChar type)
include chars

theorem SpellsChar.trim_ne_nil : trim type ≠ [] := by
  obtain ⟨consts, volatiles, blanks, spelling, listed, -, text⟩ := chars
  simp [text, (trim_spelling spelling listed).1]

theorem SpellsChar.noStar : '*' ∉ trim type := by
  obtain ⟨consts, volatiles, blanks, spelling, listed, blank, text⟩ := chars
  have unstarred : ∀ spelling ∈ charTypes, '*' ∉ spelling.toList := by decide
  have solid : '*' ∉ blanks := notMem_of_blank (by decide) blank
  simp [text, copies, unstarred spelling listed, solid]

/-- A mark that parts from every spelling does not open a character type, whatever follows. -/
theorem SpellsChar.not_isPrefix {c : Char} {mark : List Char} (solid : isBlank c = false)
    (noConst : c ≠ 'c') (noVolatile : c ≠ 'v')
    (parts : ∀ spelling ∈ charTypes,
      ¬ c :: mark <+: spelling.toList ∧ ¬ spelling.toList <+: c :: mark)
    (rest : List Char) : ¬ c :: mark <+: trim type ++ rest := by
  obtain ⟨consts, volatiles, blanks, spelling, listed, blank, text⟩ := chars
  obtain ⟨longer, shorter⟩ := parts spelling listed
  have apart : ¬ c :: mark <+: spelling.toList ++ rest := by
    intro opens
    rcases List.prefix_or_prefix_of_prefix opens (List.prefix_append spelling.toList rest) with
      inner | outer
    · exact longer inner
    · exact shorter outer
  rw [text]
  cases consts with
  | succ consts => simp [copies_succ, noConst]
  | zero =>
    cases volatiles with
    | succ volatiles => simp [copies, List.replicate_succ, noVolatile]
    | zero =>
      have closed := not_isPrefix_append solid blank apart
      simpa [copies] using closed

theorem SpellsChar.plain (rest : List Char) : ¬ "__data_loc".toList <+: trim type ++ rest :=
  chars.not_isPrefix rfl (by decide) (by decide) (by decide +kernel) rest

end SpellsChar

/-- The declaration of an array of characters, with the text behind its first bracket. No star makes
it an address. -/
structure IsCharArray (decl : CDecl) (extent : List Char) : Prop where
  plain : ¬ "__data_loc".toList <+: decl.type
  noStar : '*' ∉ decl.type
  noPointer : decl.declarator.head? ≠ some '*'
  bracket : ∃ name, '[' ∉ name ∧ decl.declarator = name ++ '[' :: extent
  chars : SpellsChar decl.type

/-- Nothing but white space stands before the brackets that close an array. -/
def IsUnbounded (extent : List Char) : Prop :=
  ∀ c ∈ dropEndWhile (· == ']') extent, isBlank c = true

variable {decl : CDecl}

theorem dynamicElement?_eq_some_iff {element : List Char} :
    decl.dynamicElement? = some element ↔
      ∃ rest, decl.type = "__data_loc".toList ++ rest ∧
        element = trim (dropEmptyArrays (trim rest)) := by
  rw [dynamicElement?, Option.map_eq_some_iff]
  constructor
  · rintro ⟨rest, opens, rfl⟩
    exact ⟨rest, after?_eq_some_iff.mp opens, rfl⟩
  · rintro ⟨rest, opens, rfl⟩
    exact ⟨rest, after?_eq_some_iff.mpr opens, rfl⟩

theorem dynamicElement?_eq_none_iff :
    decl.dynamicElement? = none ↔ ¬ "__data_loc".toList <+: decl.type := by
  rw [Option.eq_none_iff_forall_ne_some]
  constructor
  · rintro none_ ⟨rest, opens⟩
    exact none_ _ (dynamicElement?_eq_some_iff.mpr ⟨rest, opens.symm, rfl⟩)
  · intro plain element some_
    obtain ⟨rest, opens, -⟩ := dynamicElement?_eq_some_iff.mp some_
    exact plain ⟨rest, opens.symm⟩

theorem isPointer_eq_false_iff :
    decl.isPointer = false ↔ '*' ∉ decl.type ∧ decl.declarator.head? ≠ some '*' := by
  simp [isPointer]

theorem extent?_eq_some_iff {text : List Char} :
    decl.extent? = some text ↔
      ∃ name extent, '[' ∉ name ∧ decl.declarator = name ++ '[' :: extent ∧
        text = trim (dropEndWhile (· == ']') extent) := by
  unfold extent?
  constructor
  · intro found
    split at found
    · contradiction
    · rename_i bracket extent from_
      obtain rfl := Option.some.inj found
      have head := List.head?_dropWhile_not (· != '[') decl.declarator
      rw [from_] at head
      have opens : bracket = '[' := by simpa using head
      have parts := @List.takeWhile_append_dropWhile _ (· != '[') decl.declarator
      rw [from_, opens] at parts
      refine ⟨_, extent, ?_, parts.symm, rfl⟩
      intro member
      have other := List.mem_takeWhile_imp member
      contradiction
  · rintro ⟨name, extent, absent, same, rfl⟩
    rw [same, List.dropWhile_append_of_pos (bne_of_notMem absent),
      List.dropWhile_cons_of_neg (by decide)]

theorem extent?_eq_none_iff : decl.extent? = none ↔ '[' ∉ decl.declarator := by
  have closed : decl.declarator.dropWhile (· != '[') = [] ↔ '[' ∉ decl.declarator := by
    rw [List.dropWhile_eq_nil_iff, ← List.forall_mem_ne']
    simp only [bne_iff_ne, ne_eq]
  rw [← closed, extent?]
  split
  · rename_i none_
    exact iff_of_true rfl none_
  · rename_i some_
    exact iff_of_false (Option.some_ne_none _) (by simp [some_])

end CDecl

namespace KernelType
open Text CDecl
variable {decl : CDecl} {size : UInt16} {signed : Bool} {type : KernelType}

theorem ofPointee?_cases {pointee : List Char} (found : ofPointee? pointee size = some type) :
    type = .charPointer ∨ ∃ shape, type.intShape? = some shape := by
  unfold ofPointee? at found
  split at found
  · exact .inl (Option.some.inj found).symm
  split at found
  · obtain rfl := Option.some.inj found
    exact .inr ⟨_, rfl⟩
  split at found
  · obtain rfl := Option.some.inj found
    exact .inr ⟨_, rfl⟩
  · contradiction

theorem exists_shape_of_ofScalar? {name : List Char}
    (found : ofScalar? name size signed = some type) : ∃ shape, type.intShape? = some shape := by
  unfold ofScalar? at found
  split at found
  · split at found
    · obtain rfl := Option.some.inj found
      exact ⟨_, rfl⟩
    · contradiction
  · obtain ⟨width, -, rfl⟩ := Option.map_eq_some_iff.mp found
    exact ⟨_, rfl⟩

/-- What a declaration with a layout is: one of the three that put characters into the record, an
address of characters, or a declaration of integers. -/
theorem ofDecl?_cases (found : ofDecl? decl size signed = some type) :
    (type = .dataLoc ∧ ∃ rest, decl.type = "__data_loc".toList ++ rest ∧
      SpellsChar (trim (dropEmptyArrays (trim rest)))) ∨
    (∃ extent, decl.IsCharArray extent ∧
      ofExtent? (trim (dropEndWhile (· == ']') extent)) size = some type) ∨
    type = .charPointer ∨ ∃ shape, type.intShape? = some shape := by
  unfold ofDecl? at found
  split at found
  · rename_i element dynamic
    split at found
    · rename_i chars
      obtain ⟨rest, opens, rfl⟩ := dynamicElement?_eq_some_iff.mp dynamic
      exact .inl ⟨(Option.some.inj found).symm, rest, opens, isCharType_iff.mp chars⟩
    · contradiction
  rename_i plain
  split at found
  · exact .inr (.inr (ofPointee?_cases found))
  rename_i direct
  obtain ⟨noStar, noPointer⟩ := isPointer_eq_false_iff.mp (Bool.eq_false_iff.mpr direct)
  split at found
  · rename_i text array
    split at found
    · rename_i chars
      obtain ⟨name, extent, absent, bracket, rfl⟩ := extent?_eq_some_iff.mp array
      exact .inr (.inl ⟨extent, ⟨dynamicElement?_eq_none_iff.mp plain, noStar, noPointer,
        ⟨name, absent, bracket⟩, isCharType_iff.mp chars⟩, found⟩)
    · contradiction
  · exact .inr (.inr (.inr (exists_shape_of_ofScalar? found)))

theorem ofDecl?_of_isCharArray {extent : List Char} (array : decl.IsCharArray extent) :
    ofDecl? decl size signed = ofExtent? (trim (dropEndWhile (· == ']') extent)) size := by
  obtain ⟨name, absent, bracket⟩ := array.bracket
  have noPointer := isPointer_eq_false_iff.mpr ⟨array.noStar, array.noPointer⟩
  have extent := extent?_eq_some_iff.mpr ⟨name, extent, absent, bracket, rfl⟩
  simp [ofDecl?, dynamicElement?_eq_none_iff.mpr array.plain, noPointer, extent,
    isCharType_iff.mpr array.chars]

theorem ofExtent?_eq_some_iff {extent : List Char} :
    ofExtent? (trim (dropEndWhile (· == ']') extent)) size = some type ↔
      (type = .charRun ∧ IsUnbounded extent) ∨
        (type = .charArray ∧ ¬ IsUnbounded extent ∧ 0 < size) := by
  have open_ : trim (dropEndWhile (· == ']') extent) = [] ↔ IsUnbounded extent := trim_eq_nil_iff
  unfold ofExtent?
  split
  · rename_i empty
    simp [open_.mp empty, eq_comm]
  · rename_i written
    have bounded := mt open_.mpr written
    split
    · rename_i sized
      simp [bounded, sized, eq_comm]
    · rename_i unsized
      simp [bounded, unsized]

/-- Which declarations are read as bytes elsewhere in the record. -/
theorem ofDecl?_eq_dataLoc_iff :
    ofDecl? decl size signed = some .dataLoc ↔
      ∃ rest, decl.type = "__data_loc".toList ++ rest ∧
        SpellsChar (trim (dropEmptyArrays (trim rest))) := by
  constructor
  · intro found
    rcases ofDecl?_cases found with
      ⟨-, dynamic⟩ | ⟨extent, -, read⟩ | address | ⟨shape, reads⟩
    · exact dynamic
    · rcases ofExtent?_eq_some_iff.mp read with ⟨other, -⟩ | ⟨other, -⟩ <;> contradiction
    · contradiction
    · contradiction
  · rintro ⟨rest, opens, chars⟩
    have dynamic := dynamicElement?_eq_some_iff.mpr ⟨rest, opens, rfl⟩
    simp [ofDecl?, dynamic, isCharType_iff.mpr chars]

/-- Which declarations are read as an array of characters, and as which of the two. -/
theorem ofDecl?_eq_array_iff (array : type = .charRun ∨ type = .charArray) :
    ofDecl? decl size signed = some type ↔
      ∃ extent, decl.IsCharArray extent ∧ ((type = .charRun ∧ IsUnbounded extent) ∨
        (type = .charArray ∧ ¬ IsUnbounded extent ∧ 0 < size)) := by
  constructor
  · intro found
    rcases ofDecl?_cases found with
      ⟨other, -⟩ | ⟨extent, declared, read⟩ | other | ⟨shape, reads⟩
    · rcases array with rfl | rfl <;> contradiction
    · exact ⟨extent, declared, ofExtent?_eq_some_iff.mp read⟩
    · rcases array with rfl | rfl <;> contradiction
    · rcases array with rfl | rfl <;> contradiction
  · rintro ⟨extent, declared, read⟩
    rw [ofDecl?_of_isCharArray declared]
    exact ofExtent?_eq_some_iff.mpr read

end KernelType

end TraceLayout
