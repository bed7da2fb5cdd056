import TraceLayout.Kernel.KernelField
import TraceLayout.Proofs.Text.Lines

/-! What a field line says, read as a whole: its declaration and, of the segments between its
semicolons, the last number given for each key. Reading the segments one after another comes to
the same. -/
namespace TraceLayout.KernelField
open Text

/-- What opens a field line. -/
def marks : List String := ["field:", "field special:"]

theorem description?_eq_some_iff {line description : List Char} :
    description? line = some description ↔
      ∃ mark ∈ marks, line = mark.toList ++ description := by
  unfold description?
  simp only [marks, List.mem_cons, List.not_mem_nil, or_false, exists_eq_or_imp, exists_eq_left]
  cases plain : after? "field:".toList line with
  | some other =>
    rw [after?_eq_some_iff.mp plain]
    simp [eq_comm]
  | none =>
    have noPlain : ¬ line = "field:".toList ++ description := by
      rw [← after?_eq_some_iff, plain]
      exact nofun
    simp only [noPlain, false_or]
    exact after?_eq_some_iff

/-- The fault of a segment by itself. Offset and size have to be numbers. -/
def segmentFault? (segment : List Char) : Option FieldFault :=
  (misread? "offset:" .badOffset segment).or (misread? "size:" .badSize segment)

/-- Whether the last sign that segments give is one. Without any the field has no sign. -/
def isSigned (segments : List (List Char)) : Bool :=
  (segments.filterMap (valueOf? "signed:")).getLast? == some ['1']

/-- The field that a declaration and segments make up: the declaration is written, no segment has a
fault, and both an offset and a size are given. -/
def ofSegments (declaration : List Char) (segments : List (List Char)) :
    Except FieldFault KernelField :=
  if declaration = [] then .error .noDeclaration
  else match segments.findSome? segmentFault? with
    | some fault => .error fault
    | none =>
      match (numbersOf "offset:" segments).getLast?, (numbersOf "size:" segments).getLast? with
      | none, _ => .error (.noOffset (String.ofList declaration))
      | some _, none => .error (.noSize (String.ofList declaration))
      | some offset, some size =>
        .ok (ofDeclaration (String.ofList declaration) offset size (isSigned segments))

/-- What a description says as a whole: all before its first semicolon declares the field. -/
def described (description : List Char) : Except FieldFault KernelField :=
  ofSegments (trim ((description.splitOn ';').headD [])) (description.splitOn ';').tail

namespace Attributes

def extend (seen : Attributes) (segment : List Char) : Attributes where
  offset? := ((valueOf? "offset:" segment).bind word?).or seen.offset?
  size? := ((valueOf? "size:" segment).bind word?).or seen.size?
  signed := ((valueOf? "signed:" segment).map (· == ['1'])).getD seen.signed

theorem read_eq (seen : Attributes) (segment : List Char) :
    seen.read segment = match segmentFault? segment with
      | some fault => .error fault
      | none => .ok (seen.extend segment) := by
  unfold read segmentFault? misread? extend valueOf?
  cases offset : after? "offset:".toList (trim segment) with
  | some value =>
    have opens := after?_eq_some_iff.mp offset
    have noSize : after? "size:".toList (trim segment) = none := by rw [opens]; rfl
    have noSign : after? "signed:".toList (trim segment) = none := by rw [opens]; rfl
    simp only [offset, noSize, noSign, Option.map_some, Option.bind_some]
    cases word? (trim value) <;> rfl
  | none =>
    cases size : after? "size:".toList (trim segment) with
    | some value =>
      have opens := after?_eq_some_iff.mp size
      have noSign : after? "signed:".toList (trim segment) = none := by rw [opens]; rfl
      simp only [offset, size, noSign, Option.map_some, Option.bind_some]
      cases word? (trim value) <;> rfl
    | none =>
      simp only [offset, size]
      cases after? "signed:".toList (trim segment) <;> rfl

/-- The attributes after all segments: the last number of each key, or what was there before. -/
def extendAll (seen : Attributes) (segments : List (List Char)) : Attributes where
  offset? := (numbersOf "offset:" segments).getLast?.or seen.offset?
  size? := (numbersOf "size:" segments).getLast?.or seen.size?
  signed := ((segments.filterMap (valueOf? "signed:")).getLast?.map (· == ['1'])).getD seen.signed

theorem extendAll_extend (seen : Attributes) (segment : List Char) (segments : List (List Char)) :
    (seen.extend segment).extendAll segments = seen.extendAll (segment :: segments) := by
  simp only [extendAll, extend, numbersOf_cons_or, valuesOf_cons_getD]

theorem readAll_eq (seen : Attributes) (segments : List (List Char)) :
    seen.readAll segments = match segments.findSome? segmentFault? with
      | some fault => .error fault
      | none => .ok (seen.extendAll segments) := by
  induction segments generalizing seen with
  | nil => rfl
  | cons segment segments ih =>
    rw [readAll, read_eq]
    cases fault : segmentFault? segment with
    | some fault => simp [fault]
    | none => simp [fault, ih, extendAll_extend]

end Attributes

theorem ofDescription_eq_described (description : List Char) :
    ofDescription description = described description := by
  unfold ofDescription described
  cases pieces : description.splitOn ';' with
  | nil => exact absurd pieces (List.splitOn_ne_nil _ _)
  | cons first segments =>
    simp only [List.headD_cons, List.tail_cons, ofSegments, Attributes.readAll_eq]
    by_cases empty : trim first = []
    · simp [empty]
    · simp only [empty, if_false]
      cases fault : segments.findSome? segmentFault? with
      | some fault => rfl
      | none =>
        simp only [Attributes.complete, Attributes.extendAll, Option.or_none, isSigned]
        cases (numbersOf "offset:" segments).getLast? with
        | none => rfl
        | some offset =>
          cases (numbersOf "size:" segments).getLast? with
          | none => rfl
          | some size => cases (segments.filterMap (valueOf? "signed:")).getLast? <;> rfl

theorem ofSegments_ok {declaration : List Char} {segments : List (List Char)} {field : KernelField}
    (made : ofSegments declaration segments = .ok field) :
    field.signed = isSigned segments ∧
      field.type? = KernelType.infer field.declaration field.size field.signed := by
  unfold ofSegments at made
  split at made
  · cases made
  cases fault : segments.findSome? segmentFault? with
  | some _ => simp [fault] at made
  | none =>
    cases offset : (numbersOf "offset:" segments).getLast? with
    | none => simp [fault, offset] at made
    | some start =>
      cases size : (numbersOf "size:" segments).getLast? with
      | none => simp [fault, offset, size] at made
      | some length =>
        simp only [fault, offset, size, Except.ok.injEq] at made
        rw [← made]
        simp only [ofDeclaration, and_self]

end TraceLayout.KernelField
