import TraceLayout.Proofs.Text.OsText
import TraceLayout.Proofs.Text.Trim
import TraceLayout.Settings.Environment

/-! Settings in environment variables. A list of filters gives back the filters that were listed,
whatever white space and empty pieces stand between its commas. -/
namespace TraceLayout
open Text

/-- A variable is set to a text, in UTF-8. -/
def Environment.Holds (environment : Environment) (name text : String) : Prop :=
  environment.lookup name = some (.ofString text)

theorem Environment.text?_eq_some_iff {environment : Environment} {name text : String} :
    environment.text? name = some text ↔ environment.Holds name text := by
  rw [Environment.text?, Option.bind_eq_some_iff]
  simp only [OsText.text?_eq_some_iff, Holds, exists_eq_right]

namespace Settings

/-- A filter that can stand in a list. -/
structure IsListable (filter : String) : Prop where
  written : filter ≠ ""
  trimmed : trim filter.toList = filter.toList
  whole : ',' ∉ filter.toList

/-- What stands between commas: one filter with white space around it, or white space alone. -/
inductive Piece : (piece : List Char) → (given? : Option String) → Prop
  | blank : (∀ c ∈ piece, isBlank c = true) → Piece piece none
  | filter : (∀ c ∈ front, isBlank c = true) → (∀ c ∈ back, isBlank c = true) →
      IsListable filter → Piece (front ++ filter.toList ++ back) (some filter)

/-- A text that lists filters, in pieces between commas. -/
inductive Lists : (list : List Char) → (listed : List String) → Prop
  | last : Piece piece given? → Lists piece given?.toList
  | cons : Piece piece given? → Lists list listed →
      Lists (piece ++ ',' :: list) (given?.toList ++ listed)

/-- A word that declines the comparison of headers. -/
def Declines (word : String) : Prop :=
  trim word.toList ∈ ["0".toList, "false".toList, "no".toList]

theorem asksToVerify_eq_false_iff {word : String} :
    asksToVerify word = false ↔ Declines word := by
  rw [asksToVerify, Bool.not_eq_false', List.contains_iff_mem, Declines]
  simp only [declining, List.mem_cons, List.not_mem_nil, or_false, ← String.toList_inj,
    String.toList_ofList]

/-- What a piece between commas gives. -/
def givenIn? (piece : List Char) : Option String :=
  if trim piece = [] then none else some (String.ofList (trim piece))

theorem filtersOf_eq_filterMap (list : String) :
    filtersOf list = (list.toList.splitOn ',').filterMap givenIn? := by
  rw [filtersOf]
  induction list.toList.splitOn ',' with
  | nil => rfl
  | cons piece pieces ih =>
    by_cases blank : trim piece = []
    · simpa [givenIn?, blank] using ih
    · simpa [givenIn?, blank] using ih

theorem piece_iff {piece : List Char} {given? : Option String} :
    Piece piece given? ↔ ',' ∉ piece ∧ givenIn? piece = given? := by
  constructor
  · intro made
    cases made with
    | blank blank => exact ⟨notMem_of_blank (by decide) blank, if_pos (trim_eq_nil_iff.mpr blank)⟩
    | @filter front back filter blankFront blankBack listable =>
      have trimmed : trim (front ++ filter.toList ++ back) = filter.toList := by
        rw [trim_append_of_blank blankBack, trim_append_of_blank_left blankFront,
          listable.trimmed]
      have written : filter.toList ≠ [] := by simpa using listable.written
      have free := notMem_of_blank (c := ',') (by decide) blankFront
      have free' := notMem_of_blank (c := ',') (by decide) blankBack
      constructor
      · simp [listable.whole, free, free']
      · rw [givenIn?, trimmed, if_neg written, String.ofList_toList]
  · rintro ⟨whole, rfl⟩
    unfold givenIn?
    split
    · rename_i empty
      exact .blank (trim_eq_nil_iff.mp empty)
    · rename_i written
      obtain ⟨front, back, blankFront, blankBack, parts⟩ := exists_blanks_trim piece
      have listable : IsListable (String.ofList (trim piece)) := by
        refine ⟨by simpa using written, by simpa using trim_trim piece, ?_⟩
        rw [String.toList_ofList]
        intro member
        rw [parts] at whole
        simp [member] at whole
      have made := Piece.filter blankFront blankBack listable
      rwa [String.toList_ofList, ← parts] at made

/-- Every text lists the filters that its pieces give. -/
theorem lists_iff {list : List Char} {listed : List String} :
    Lists list listed ↔ (list.splitOn ',').filterMap givenIn? = listed := by
  constructor
  · intro made
    induction made with
    | last piece =>
      obtain ⟨whole, rfl⟩ := piece_iff.mp piece
      rw [List.splitOn_eq_singleton whole, List.filterMap_cons]
      cases givenIn? _ <;> rfl
    | cons piece _ ih =>
      obtain ⟨whole, rfl⟩ := piece_iff.mp piece
      rw [List.splitOn_append_cons_self_of_not_mem whole, List.filterMap_cons, ih]
      cases givenIn? _ <;> rfl
  · rintro rfl
    induction length : list.length using Nat.strongRecOn generalizing list with
    | ind n ih =>
      by_cases comma : ',' ∈ list
      · obtain ⟨piece, rest, rfl, whole⟩ := List.eq_append_cons_of_mem comma
        rw [List.splitOn_append_cons_self_of_not_mem whole, List.filterMap_cons]
        rw [List.length_append, List.length_cons] at length
        have more := ih rest.length (by omega) rfl
        have made := Lists.cons (piece_iff.mpr ⟨whole, rfl⟩) more
        cases given : givenIn? piece <;> simpa [given] using made
      · rw [List.splitOn_eq_singleton comma]
        have made := Lists.last (piece_iff.mpr ⟨comma, rfl⟩)
        cases given : givenIn? list <;> simpa [given] using made

/-- Filters that are joined by commas alone are listed. -/
theorem lists_intercalate {listed : List String} (listable : ∀ filter ∈ listed, IsListable filter) :
    Lists (",".intercalate listed).toList listed := by
  rw [String.toList_intercalate]
  induction listed with
  | nil => exact .last (.blank (by simp))
  | cons filter more ih =>
    have piece : Piece filter.toList (some filter) := by
      simpa using @Piece.filter [] [] filter (by simp) (by simp)
        (listable filter List.mem_cons_self)
    cases more with
    | nil => simpa using Lists.last piece
    | cons other more =>
      have rest := ih fun filter member => listable filter (List.mem_cons_of_mem _ member)
      simpa using Lists.cons piece rest

theorem filtersOf_eq_iff {list : String} {listed : List String} :
    filtersOf list = listed ↔ Lists list.toList listed := by
  rw [filtersOf_eq_filterMap, lists_iff]

section
variable {environment : Environment}

theorem filters_ofEnvironment {list : String} {listed : List String}
    (held : environment.Holds filtersVariable list) (lists : Lists list.toList listed) :
    (ofEnvironment environment).filters = listed := by
  simpa [ofEnvironment, Environment.text?_eq_some_iff.mpr held] using filtersOf_eq_iff.mpr lists

theorem filters_ofEnvironment_of_unset (unset : ∀ list, ¬ environment.Holds filtersVariable list) :
    (ofEnvironment environment).filters = [] := by
  have none_ : environment.text? filtersVariable = none :=
    Option.eq_none_iff_forall_ne_some.mpr fun list held =>
      unset list (Environment.text?_eq_some_iff.mp held)
  simp [ofEnvironment, none_]

theorem verifyHeaders_ofEnvironment_eq_false_iff :
    (ofEnvironment environment).verifyHeaders = false ↔
      ∃ word, environment.Holds verifyVariable word ∧ Declines word := by
  simp only [ofEnvironment, ← Environment.text?_eq_some_iff]
  cases environment.text? verifyVariable with
  | none => simp
  | some word => simp [asksToVerify_eq_false_iff]

end

end TraceLayout.Settings
