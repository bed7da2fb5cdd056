import TraceLayout.Proofs.Layout.Refusal
import TraceLayout.Proofs.Layout.Sources
import TraceLayout.Proofs.Text.Trim

/-! White space around the lines of a format text. Every line is trimmed before it is read, so texts
whose lines have the same trims parse alike, with the same errors at the same lines, and sources of
such texts build the same table. Other line endings and another indentation are of this kind. -/
namespace TraceLayout

namespace Text

/-- Texts with as many lines as each other, whose lines at one place have the same trim. -/
def Respaced (text other : List Char) : Prop :=
  ∃ ls others, LinesOf text ls ∧ LinesOf other others ∧
    List.Forall₂ (fun line line' => trim line = trim line') ls others

/-- A text with a carriage return in front of every line feed. -/
def crlf (text : List Char) : List Char :=
  text.flatMap fun c => if c = '\n' then ['\r', '\n'] else [c]

/-- White space within a line. -/
def IsIndent (cs : List Char) : Prop := ∀ c ∈ cs, isBlank c = true ∧ c ≠ '\n'

/-- Texts whose lines at one place are the same behind their indentations. -/
inductive Reindented : List Char → List Char → Prop
  | nil : Reindented [] []
  | last : IsIndent front → IsIndent front' → '\n' ∉ line → front ++ line ≠ [] →
      front' ++ line ≠ [] → Reindented (front ++ line) (front' ++ line)
  | cons : IsIndent front → IsIndent front' → '\n' ∉ line → Reindented rest rest' →
      Reindented (front ++ line ++ '\n' :: rest) (front' ++ line ++ '\n' :: rest')

theorem respaced_iff {text other : List Char} :
    Respaced text other ↔ (lines text).map trim = (lines other).map trim := by
  rw [← List.forall₂_eq_eq_eq, List.forall₂_map_left_iff, List.forall₂_map_right_iff]
  constructor
  · rintro ⟨ls, others, made, made', same⟩
    rwa [linesOf_iff.mp made, linesOf_iff.mp made'] at same
  · exact fun same => ⟨_, _, linesOf_iff.mpr rfl, linesOf_iff.mpr rfl, same⟩

theorem crlf_of_notMem {line : List Char} (free : '\n' ∉ line) : crlf line = line := by
  induction line with
  | nil => rfl
  | cons c line ih =>
    obtain ⟨other, free⟩ := List.ne_and_not_mem_of_not_mem_cons free
    have kept := ih free
    rw [crlf] at kept ⊢
    rw [List.flatMap_cons, kept, if_neg other.symm, List.singleton_append]

theorem crlf_append_cons {line : List Char} (free : '\n' ∉ line) (rest : List Char) :
    crlf (line ++ '\n' :: rest) = line ++ ['\r'] ++ '\n' :: crlf rest := by
  have kept := crlf_of_notMem free
  rw [crlf] at kept ⊢
  simp [kept, crlf]

/-- A carriage return at the end of a line is white space around it. -/
theorem respaced_crlf (text : List Char) : Respaced text (crlf text) := by
  obtain ⟨ls, made⟩ : ∃ ls, LinesOf text ls := ⟨_, linesOf_iff.mpr rfl⟩
  refine ⟨ls, ?_⟩
  induction made with
  | nil => exact ⟨[], .nil, .nil, .nil⟩
  | @last line written free =>
    rw [crlf_of_notMem free]
    exact ⟨[line], .last written free, .last written free, .cons rfl .nil⟩
  | @cons line rest more free _ ih =>
    obtain ⟨others, made, made', same⟩ := ih
    have free' : '\n' ∉ line ++ ['\r'] := by simp [free]
    have trims : trim line = trim (line ++ ['\r']) :=
      (trim_append_of_blank (List.forall_mem_singleton.mpr (by decide)) line).symm
    exact ⟨(line ++ ['\r']) :: others, .cons free made,
      crlf_append_cons free rest ▸ .cons free' made', .cons trims same⟩

theorem IsIndent.notMem_append {front line : List Char} (indent : IsIndent front)
    (free : '\n' ∉ line) : '\n' ∉ front ++ line := by
  rw [List.mem_append, not_or]
  exact ⟨fun member => (indent '\n' member).2 rfl, free⟩

theorem IsIndent.trim_append {front : List Char} (indent : IsIndent front) (line : List Char) :
    trim (front ++ line) = trim line :=
  trim_append_of_blank_left (fun c member => (indent c member).1) line

theorem Reindented.respaced {text other : List Char} (same : Reindented text other) :
    Respaced text other := by
  induction same with
  | nil => exact ⟨[], [], .nil, .nil, .nil⟩
  | @last front front' line indent indent' free written written' =>
    exact ⟨[front ++ line], [front' ++ line], .last written (indent.notMem_append free),
      .last written' (indent'.notMem_append free),
      .cons ((indent.trim_append line).trans (indent'.trim_append line).symm) .nil⟩
  | @cons front front' line rest rest' indent indent' free _ ih =>
    obtain ⟨ls, others, made, made', same⟩ := ih
    exact ⟨(front ++ line) :: ls, (front' ++ line) :: others,
      .cons (indent.notMem_append free) made, .cons (indent'.notMem_append free) made',
      .cons ((indent.trim_append line).trans (indent'.trim_append line).symm) same⟩

end Text

namespace KernelFormat
open Text

/-- The lines of a section are read by their trims alone. -/
theorem Section.readAll_map_trim (seen : Section) (number : Nat) (ls : List (List Char)) :
    seen.readAll number (ls.map trim) = seen.readAll number ls := by
  induction ls generalizing seen number with
  | nil => rfl
  | cons line ls ih =>
    rw [List.map_cons, readAll, readAll, trim_trim]
    split
    · rfl
    · cases seen.read (trim line) with
      | error fault => rfl
      | ok seen => exact ih seen (number + 1)

theorem readLines_map_trim (seen : Preamble) (number : Nat) (ls : List (List Char)) :
    readLines seen number (ls.map trim) = readLines seen number ls := by
  induction ls generalizing seen number with
  | nil => rfl
  | cons line ls ih =>
    rw [List.map_cons, readLines, readLines, trim_trim]
    split
    · rw [Section.readAll_map_trim]
    · cases seen.read (trim line) with
      | error error => rfl
      | ok seen => exact ih seen (number + 1)

theorem parse_eq_of_respaced {text other : String} (same : Respaced text.toList other.toList) :
    parse text = parse other := by
  rw [parse, parse, ← readLines_map_trim, respaced_iff.mp same, readLines_map_trim]

end KernelFormat

/-- For an event, neither source has a text that is not empty, or both do and their texts differ in
the white space around lines at most. -/
def FormatSource.Respaces (source other : FormatSource) (event : DeclaredEvent) : Prop :=
  Option.Rel (fun text text' => Text.Respaced text.toList text'.toList)
    ((source event.group event.name).text?.filter (· != ""))
    ((other event.group event.name).text?.filter (· != ""))

theorem FormatSource.Respaces.parsed?_eq {source other : FormatSource} {event : DeclaredEvent}
    (same : source.Respaces other event) : source.parsed? event = other.parsed? event := by
  unfold FormatSource.Respaces at same
  unfold FormatSource.parsed?
  generalize (source event.group event.name).text?.filter (· != "") = text? at same ⊢
  generalize (other event.group event.name).text?.filter (· != "") = other? at same ⊢
  cases same with
  | none => rfl
  | some texts => exact congrArg some (KernelFormat.parse_eq_of_respaced texts)

namespace Build
open Text

/-- White space around lines has no effect on what a text parses to, nor on the table and the
reports of a build. Line endings and indentation are white space around lines. -/
theorem run_respaced :
    (∀ text, Respaced text (crlf text)) ∧
    (∀ text other, Reindented text other → Respaced text other) ∧
    (∀ text other : String, Respaced text.toList other.toList →
      KernelFormat.parse text = KernelFormat.parse other) ∧
    ∀ (source other : FormatSource) (declared : List DeclaredEvent) (verify : Bool),
      (∀ event ∈ declared, source.Respaces other event) →
      (run source declared verify).map (fun build => (build.table, build.diagnostics)) =
        (run other declared verify).map (fun build => (build.table, build.diagnostics)) ∧
      (Catalogue.defect? declared = none → ∃ build, run source declared verify = .ok build) := by
  refine ⟨respaced_crlf, fun _ _ => Reindented.respaced,
    fun _ _ => KernelFormat.parse_eq_of_respaced, ?_⟩
  intro source other declared verify same
  constructor
  · cases found : Catalogue.defect? declared with
    | some defect =>
      have refused (source : FormatSource) : run source declared verify = .error defect :=
        (run_eq_error_iff source verify).mpr (Catalogue.defect?_eq_some_iff.mp found)
      rw [refused source, refused other]
    | none =>
      have made := run_eq_ok source verify found
      obtain ⟨again, madeAgain, table, diagnostics⟩ :=
        run_congr verify found (fun event member => (same event member).parsed?_eq) made
      rw [made, madeAgain, Except.map, Except.map, table, diagnostics]
  · exact fun clean => ⟨_, run_eq_ok source verify clean⟩

/-- The sample texts with other line ends and indentations, and an empty one for the event that has
none. -/
def respacedTexts : FormatStore := ⟨[
  (("sched", "sched_blocked_reason"),
    "ID: 9\r\n\u3000format:\r\n\tfield:u8 h;offset:0;size:1;\u2028\r\n \u00a0\r\n" ++
    "  field:int pid;offset:8;size:4;signed:1;"),
  (("ipi", "ipi_raise"), "ID: 3\r\nformat:\r\nfield:u8 h;offset:0;size:1;\r\n"),
  (("ipi", "ipi_entry"), "\tID: 9\n\u2003format:\nfield:u8 h;offset:0;size:1;\n"),
  (("ipi", "ipi_exit"), "")]⟩

theorem respaces_sampleTexts :
    ∀ event ∈ sampleEvents, sampleTexts.source.Respaces respacedTexts.source event := by
  intro event member
  simp only [sampleEvents, List.mem_cons, List.not_mem_nil, or_false] at member
  rcases member with rfl | rfl | rfl | rfl
  · exact .some (respaced_iff.mpr (by decide +kernel))
  · exact .some (respaced_iff.mpr (by decide +kernel))
  · exact .some (respaced_iff.mpr (by decide +kernel))
  · exact .none

theorem run_respaced_sample :
    Reindented "\tID: 9\n\u2003format:".toList "ID: 9\n format:".toList ∧
    KernelFormat.parse "\tID: 9\n\u2003format:" = KernelFormat.parse "ID: 9\n format:" ∧
    Catalogue.defect? sampleEvents = none ∧
    (∀ event ∈ sampleEvents, sampleTexts.source.Respaces respacedTexts.source event) ∧
    ∃ build, run sampleTexts.source sampleEvents true = .ok build ∧
      (run respacedTexts.source sampleEvents true).map
        (fun build => (build.table, build.diagnostics)) =
          .ok (build.table, build.diagnostics) ∧
      build.table.events.map (·.id) = [3, 9] := by
  obtain ⟨-, indented, parsed, built⟩ := run_respaced
  have reindented : Reindented "\tID: 9\n\u2003format:".toList "ID: 9\n format:".toList :=
    @Reindented.cons ['\t'] [] "ID: 9".toList _ _ (List.forall_mem_singleton.mpr (by decide))
      (List.forall_mem_nil _) (by decide)
      (@Reindented.last ['\u2003'] [' '] "format:".toList
        (List.forall_mem_singleton.mpr (by decide)) (List.forall_mem_singleton.mpr (by decide))
        (by decide) (by decide) (by decide))
  obtain ⟨same, accepted⟩ :=
    built sampleTexts.source respacedTexts.source sampleEvents true respaces_sampleTexts
  have clean : Catalogue.defect? sampleEvents = none := by decide
  obtain ⟨build, made⟩ := accepted clean
  rw [made] at same
  have ids := check_of_run (fun build => build.table.events.map (·.id) == [3, 9]) made
    (by decide +kernel)
  exact ⟨reindented, parsed _ _ (indented _ _ reindented), clean, respaces_sampleTexts, build, made,
    same.symm, beq_iff_eq.mp ids⟩

end Build

end TraceLayout
