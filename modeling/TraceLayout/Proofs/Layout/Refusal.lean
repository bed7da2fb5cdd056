import TraceLayout.Proofs.Layout.DenseIndex
import TraceLayout.Settings.SettingsBuild

/-! Which catalogues are refused, and why. A catalogue is refused for its first defect alone,
whatever the source of texts is. Every other one builds, and each of its events is written to a slot
that the table has. -/
namespace TraceLayout.Build

theorem run_eq_error_iff (source : FormatSource) (verify : Bool) {declared : List DeclaredEvent}
    {defect : DeclarationError} :
    run source declared verify = .error defect ↔ Catalogue.FirstDefect declared defect := by
  rw [← Catalogue.defect?_eq_some_iff, run]
  cases Catalogue.defect? declared <;> simp

/-- The text that refuses a catalogue. It tells the first defect. -/
inductive Refuses (declared : List DeclaredEvent) : String → Prop
  | malformed (first : Catalogue.FirstDefect declared defect) (tells : defect.ToldAs told) :
      Refuses declared ("malformed ftrace event catalogue: " ++ told)

theorem refuses_iff {declared : List DeclaredEvent} {text : String} :
    Refuses declared text ↔ ∃ defect, Catalogue.FirstDefect declared defect ∧
      refusal defect = text := by
  constructor
  · rintro ⟨first, tells⟩
    rw [DeclarationError.toldAs_iff.mp tells]
    exact ⟨_, first, rfl⟩
  · rintro ⟨defect, first, rfl⟩
    exact .malformed first (DeclarationError.toldAs_iff.mpr rfl)

/-- Settings whose filters are well formed and which find a tracefs fail as the build of the events
that they select does. -/
theorem buildFrom_eq_catalogue_iff {settings : Settings} {declared : List DeclaredEvent}
    {read : OsText → Except FileError String} {mounted? : Option Tracefs}
    {defect : DeclarationError} :
    settings.buildFrom declared read mounted? = .error (.catalogue defect) ↔
      settings.filterError? = none ∧ settings.tracefs? mounted? ≠ none ∧
        Catalogue.FirstDefect (settings.select declared) defect := by
  unfold Settings.buildFrom
  cases settings.filterError? with
  | some error => simp
  | none =>
    cases settings.tracefs? mounted? with
    | none => simp
    | some tracefs =>
      rw [← run_eq_error_iff (tracefs.source read) settings.verifyHeaders]
      cases made : run (tracefs.source read) (settings.select declared) settings.verifyHeaders <;>
        simp [made]

/-- What a build makes of the events that resolved: a table of them all, with a free slot for each
when it is written. -/
structure Tabulates (build : Build) (resolved : List EventLayout) : Prop where
  table : build.table = .ofEvents resolved build.table.header
  slots : Table.WritesFresh resolved build.table.header

theorem exists_run_eq_ok_iff (source : FormatSource) (verify : Bool)
    {declared : List DeclaredEvent} :
    (∃ build, run source declared verify = .ok build ∧
      build.Tabulates (resolveAll source verify declared).published) ↔
        Catalogue.IsSound declared := by
  constructor
  · rintro ⟨build, made, -⟩
    apply Catalogue.defect?_eq_none_iff.mp
    cases found : Catalogue.defect? declared with
    | none => rfl
    | some defect => simp [run, found] at made
  · intro sound
    have fit := indexable_resolveAll source verify sound
    have published := published_resolveAll source verify sound
    refine ⟨_, run_eq_ok source verify (Catalogue.defect?_eq_none_iff.mpr sound), ?_, ?_⟩
    · rw [ofProgress, Table.header_ofEvents]
    · rw [published]
      exact fit.writesFresh _

/-- The check of a catalogue accepts exactly the sound ones, and finds the first defect of any
other. A build refuses a catalogue exactly for that defect, in a text that tells it, and settings
fail with the same text for the events that they select. -/
theorem run_refuses (declared : List DeclaredEvent) :
    (Catalogue.defect? declared = none ↔ Catalogue.IsSound declared) ∧
    (∀ defect, Catalogue.defect? declared = some defect ↔
      Catalogue.FirstDefect declared defect) ∧
    (∀ source verify defect, run source declared verify = .error defect ↔
      Catalogue.FirstDefect declared defect) ∧
    (∀ defect, refusal defect = "malformed ftrace event catalogue: " ++ defect.message) ∧
    (∀ source verify text, (∃ defect, run source declared verify = .error defect ∧
      refusal defect = text) ↔ Refuses declared text) ∧
    (∀ (settings : Settings) read mounted? text,
      (∃ defect, settings.buildFrom declared read mounted? = .error (.catalogue defect) ∧
        (SettingsBuildError.catalogue defect).message = text) ↔
      settings.filterError? = none ∧ settings.tracefs? mounted? ≠ none ∧
        Refuses (settings.select declared) text) ∧
    ∀ source verify, (∃ build, run source declared verify = .ok build ∧
      build.Tabulates (resolveAll source verify declared).published) ↔
        Catalogue.IsSound declared := by
  refine ⟨Catalogue.defect?_eq_none_iff, fun _ => Catalogue.defect?_eq_some_iff,
    fun source verify _ => run_eq_error_iff source verify, fun _ => rfl, ?_, ?_,
    fun source verify => exists_run_eq_ok_iff source verify⟩
  · intro source verify text
    simp only [run_eq_error_iff, refuses_iff]
  · intro settings read mounted? text
    simp only [buildFrom_eq_catalogue_iff, refuses_iff, SettingsBuildError.message,
      and_assoc, exists_and_left]

end TraceLayout.Build
