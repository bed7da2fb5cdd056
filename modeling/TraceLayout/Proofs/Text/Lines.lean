import TraceLayout.Text.Blank
import TraceLayout.Text.Numeral

/-! The lines of a text, and what lines or segments say that open with a key. -/
namespace TraceLayout.Text

/-- What it means for lines to make up a text: each is free of line feeds, a line feed ends each but
perhaps the last, and a last line that none ends is not empty. -/
inductive LinesOf : List Char → List (List Char) → Prop
  | nil : LinesOf [] []
  | last : line ≠ [] → '\n' ∉ line → LinesOf line [line]
  | cons : '\n' ∉ line → LinesOf rest more → LinesOf (line ++ '\n' :: rest) (line :: more)

@[simp]
theorem lines_nil : lines [] = [] := rfl

theorem lines_of_notMem {line : List Char} (written : line ≠ []) (free : '\n' ∉ line) :
    lines line = [line] := by
  simp [lines, List.splitOn_eq_singleton free, written]

theorem lines_append_cons {line : List Char} (free : '\n' ∉ line) (rest : List Char) :
    lines (line ++ '\n' :: rest) = line :: lines rest := by
  unfold lines
  rw [List.splitOn_append_cons_self_of_not_mem free]
  have parted := List.splitOn_ne_nil '\n' rest
  simp only [List.getLast?_cons_of_ne_nil parted, List.dropLast_cons_of_ne_nil parted]
  split <;> rfl

/-- Every text has exactly one list of lines. -/
theorem linesOf_iff {cs : List Char} {ls : List (List Char)} : LinesOf cs ls ↔ ls = lines cs := by
  constructor
  · intro made
    induction made with
    | nil => rfl
    | last written free => rw [lines_of_notMem written free]
    | cons free _ ih => rw [lines_append_cons free, ih]
  · rintro rfl
    induction length : cs.length using Nat.strongRecOn generalizing cs with
    | ind n ih =>
      by_cases feed : '\n' ∈ cs
      · obtain ⟨line, rest, rfl, free⟩ := List.eq_append_cons_of_mem feed
        rw [lines_append_cons free]
        refine .cons free (ih rest.length ?_ rfl)
        simp only [List.length_append, List.length_cons] at length
        omega
      · by_cases empty : cs = []
        · rw [empty]
          exact .nil
        · rw [lines_of_notMem empty feed]
          exact .last empty feed

/-- The trimmed value that a line or segment gives for a key. -/
def valueOf? (key : String) (segment : List Char) : Option (List Char) :=
  (after? key.toList (trim segment)).map trim

/-- The error of a line or segment that gives a key a value which is no sixteen-bit numeral. -/
def misread? {ε : Type} (key : String) (error : String → ε) (segment : List Char) : Option ε :=
  (valueOf? key segment).bind fun value =>
    if (word? value).isSome then none else some (error (String.ofList value))

/-- The numbers that lines or segments give for a key, in order. -/
def numbersOf (key : String) (segments : List (List Char)) : List UInt16 :=
  segments.filterMap fun segment => (valueOf? key segment).bind word?

theorem numbersOf_eq (key : String) (segments : List (List Char)) :
    numbersOf key segments = (segments.map (valueOf? key)).filterMap (·.bind word?) := by
  rw [List.filterMap_map]
  rfl

theorem numbersOf_cons_or (key : String) (segment : List Char) (segments : List (List Char))
    (old : Option UInt16) :
    (numbersOf key segments).getLast?.or (((valueOf? key segment).bind word?).or old) =
      (numbersOf key (segment :: segments)).getLast?.or old := by
  cases own : (valueOf? key segment).bind word? with
  | none => simp [numbersOf, own]
  | some n =>
    have added : numbersOf key (segment :: segments) = n :: numbersOf key segments := by
      simp [numbersOf, own]
    rw [added, List.getLast?_cons]
    cases (numbersOf key segments).getLast? <;> rfl

theorem valuesOf_cons_getD {α : Type} (key : String) (f : List Char → α) (segment : List Char)
    (segments : List (List Char)) (old : α) :
    ((segments.filterMap (valueOf? key)).getLast?.map f).getD
        (((valueOf? key segment).map f).getD old) =
      (((segment :: segments).filterMap (valueOf? key)).getLast?.map f).getD old := by
  cases own : valueOf? key segment with
  | none => simp [own]
  | some value =>
    cases last : (segments.filterMap (valueOf? key)).getLast? <;>
      simp [own, List.getLast?_cons, last]

end TraceLayout.Text
