import TraceLayout.Settings.SettingsFile

/-! What the settings of a file are: those that its entries record, key by key. The environment has
no part in it. -/
namespace TraceLayout.Settings

/-- What a document says, key by key. Unknown keys say nothing. -/
structure Records (entries : Toml.Entries) (file : Settings) : Prop where
  root : entries.lookup "tracefs_root" = none ∧ file.root? = none ∨
    ∃ root, entries.lookup "tracefs_root" = some (.value (.string root)) ∧
      file.root? = some (.ofString root)
  filters : entries.lookup "events" = none ∧ file.filters = [] ∨
    entries.lookup "events" = some (.value (.array (file.filters.map .string)))
  verify : entries.lookup "verify_common_fields" = none ∧ file.verifyHeaders = true ∨
    entries.lookup "verify_common_fields" = some (.value (.bool file.verifyHeaders))

theorem textOf?_eq_some_iff {value : Toml.Value} {text : String} :
    textOf? value = some text ↔ value = .string text := by
  cases value <;> simp [textOf?]

theorem mapM_textOf?_eq_some_iff {items : List Toml.Value} {texts : List String} :
    items.mapM textOf? = some texts ↔ items = texts.map .string := by
  induction items generalizing texts with
  | nil => cases texts <;> simp
  | cons item items ih =>
    simp only [List.mapM_cons, Option.bind_eq_bind, Option.bind_eq_some_iff, Option.pure_def,
      Option.some.injEq, textOf?_eq_some_iff, ih]
    cases texts with
    | nil => simp
    | cons text texts => simp

theorem rootOf?_eq_some_iff {item? : Option Toml.Item} {root? : Option OsText} :
    rootOf? item? = some root? ↔ item? = none ∧ root? = none ∨
      ∃ root, item? = some (.value (.string root)) ∧ root? = some (.ofString root) := by
  unfold rootOf?
  split <;> simp_all [eq_comm]

theorem filtersOf?_eq_some_iff {item? : Option Toml.Item} {filters : List String} :
    filtersOf? item? = some filters ↔ item? = none ∧ filters = [] ∨
      item? = some (.value (.array (filters.map .string))) := by
  unfold filtersOf?
  split <;> simp_all [mapM_textOf?_eq_some_iff, eq_comm]

theorem verifyOf?_eq_some_iff {item? : Option Toml.Item} {verify : Bool} :
    verifyOf? item? = some verify ↔ item? = none ∧ verify = true ∨
      item? = some (.value (.bool verify)) := by
  unfold verifyOf?
  split
  · simp [eq_comm]
  · simp
  · rename_i item other
    simp only [reduceCtorEq, false_and, false_or, Option.some.injEq, false_iff]
    exact other verify

theorem ofToml?_eq_some_iff {text : String} {file : Settings} :
    ofToml? text = some file ↔
      ∃ entries, Toml.parse? text = some entries ∧ Records entries file := by
  simp only [ofToml?, Option.bind_eq_bind, Option.bind_eq_some_iff, Option.pure_def]
  refine exists_congr fun entries => and_congr_right fun _ => ?_
  constructor
  · rintro ⟨root?, root, filters, listed, verify, asked, ⟨⟩⟩
    exact ⟨rootOf?_eq_some_iff.mp root, filtersOf?_eq_some_iff.mp listed,
      verifyOf?_eq_some_iff.mp asked⟩
  · rintro ⟨root, listed, asked⟩
    exact ⟨_, rootOf?_eq_some_iff.mpr root, _, filtersOf?_eq_some_iff.mpr listed, _,
      verifyOf?_eq_some_iff.mpr asked, rfl⟩

theorem ofFile_eq_ok_iff {read : OsText → Except FileError String} {path : OsText}
    {file : Settings} :
    ofFile read path = .ok file ↔ ∃ text entries,
      read path = .ok text ∧ Toml.parse? text = some entries ∧ Records entries file := by
  unfold ofFile
  split
  · rename_i error failed
    simp [failed]
  · rename_i text succeeded
    rw [succeeded]
    simp only [Except.ok.injEq, exists_and_left, exists_eq_left', ← ofToml?_eq_some_iff]
    split <;> simp_all

end TraceLayout.Settings
