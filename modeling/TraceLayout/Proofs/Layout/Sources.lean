import Mathlib.Data.List.Find
import TraceLayout.Proofs.Files.FormatTree
import TraceLayout.Proofs.Layout.DenseIndex

/-! What a build reads of a source. Two sources whose texts for the declared events parse alike give
the same table and the same reports, and so a tracefs can stand for the store that it holds. -/
namespace TraceLayout

namespace FormatSource
variable {source other : FormatSource} {before : List DeclaredEvent} {event : DeclaredEvent}

/-- A source that gives the same texts, apart from empty ones, gives the same formats. -/
theorem parsed?_congr
    (same : (source event.group event.name).text?.filter (· != "") =
      (other event.group event.name).text?.filter (· != "")) :
    source.parsed? event = other.parsed? event := by
  rw [parsed?, same, parsed?]

theorem claimant?_congr (same : ∀ event ∈ before, source.parsed? event = other.parsed? event) :
    source.claimant? before = other.claimant? before := by
  funext id
  apply List.find?_congr
  intro event member
  rw [format?, same event member, format?]

theorem fate_congr (same : ∀ event ∈ before, source.parsed? event = other.parsed? event)
    (own : source.parsed? event = other.parsed? event) :
    source.fate before event = other.fate before event := by
  rw [fate, claimant?_congr same, own, fate]

end FormatSource

namespace Build
variable {source other : FormatSource} {declared : List DeclaredEvent}

theorem resolveAll_congr (verify : Bool)
    (same : ∀ event ∈ declared, source.parsed? event = other.parsed? event) :
    (resolveAll source verify declared).events = (resolveAll other verify declared).events ∧
      (resolveAll source verify declared).header? = (resolveAll other verify declared).header? ∧
      (resolveAll source verify declared).diagnostics =
        (resolveAll other verify declared).diagnostics := by
  induction declared using List.reverseRecOn with
  | nil => exact ⟨rfl, rfl, rfl⟩
  | append_singleton declared event ih =>
    have before : ∀ event ∈ declared, source.parsed? event = other.parsed? event :=
      fun event member => same event (List.mem_append_left _ member)
    obtain ⟨events, header, diagnostics⟩ := ih before
    have fate := FormatSource.fate_congr before (same event (by simp))
    obtain ⟨events₁, header₁, diagnostics₁⟩ := resolveAll_step source verify declared event
    obtain ⟨events₂, header₂, diagnostics₂⟩ := resolveAll_step other verify declared event
    rw [events₁, header₁, diagnostics₁, events₂, header₂, diagnostics₂, fate, events, header,
      diagnostics]
    exact ⟨rfl, rfl, rfl⟩

/-- A build depends on what the texts of the declared events parse to. -/
theorem run_congr (verify : Bool) (clean : Catalogue.defect? declared = none)
    (same : ∀ event ∈ declared, source.parsed? event = other.parsed? event) {build : Build}
    (made : run source declared verify = .ok build) :
    ∃ again, run other declared verify = .ok again ∧ again.table = build.table ∧
      again.diagnostics = build.diagnostics := by
  obtain ⟨events, header, diagnostics⟩ := resolveAll_congr verify same
  obtain rfl := Except.ok.inj ((run_eq_ok source verify clean).symm.trans made)
  refine ⟨_, run_eq_ok other verify clean, ?_, diagnostics.symm⟩
  rw [ofProgress, ofProgress, Progress.published, Progress.published, events, header]

/-- A store and a tracefs that holds its texts build the same table with the same reports, and they
go on to do so without the texts that are empty. -/
theorem run_tracefs_eq_store (store : FormatStore) (fileable : store.IsFileable)
    (tracefs tracefs' : Tracefs) (files files' : Files)
    (read read' : OsText → Except FileError String)
    (holds : tracefs.Holds files store) (reads : tracefs.Reads files read)
    (holds' : tracefs'.Holds files' store.written) (reads' : tracefs'.Reads files' read')
    (declared : List DeclaredEvent) (clean : Catalogue.defect? declared = none) (verify : Bool) :
    ∃ build, run store.source declared verify = .ok build ∧
      ∀ source ∈ [tracefs.source read, store.written.source, tracefs'.source read'],
        ∃ other, run source declared verify = .ok other ∧ other.table = build.table ∧
          other.diagnostics = build.diagnostics := by
  refine ⟨_, run_eq_ok store.source verify clean, ?_⟩
  intro source member
  have written : ∀ group name,
      (store.written.get? group name).filter (· != "") =
        (store.get? group name).filter (· != "") := by
    intro group name
    rw [FormatStore.get?_written fileable.distinct, Option.filter_filter]
    simp
  have same : ∀ group name, (source group name).text?.filter (· != "") =
      (store.get? group name).filter (· != "") := by
    intro group name
    simp only [List.mem_cons, List.not_mem_nil, or_false] at member
    rcases member with rfl | rfl | rfl
    · rw [Tracefs.text?_source holds reads fileable]
    · exact written group name
    · rw [Tracefs.text?_source holds' reads' fileable.written, written]
  exact run_congr verify clean
    (fun event _ => FormatSource.parsed?_congr (same event.group event.name).symm)
    (run_eq_ok store.source verify clean)

/-- The sample texts, and an empty one for the event that has none. -/
def heldTexts : FormatStore := sampleTexts.insert "ipi" "ipi_exit" ""

/-- The sample events, and one whose name would lead to the format of another. -/
def reachingEvents : List DeclaredEvent :=
  sampleEvents ++ [⟨"../ipi/ipi_raise", "sched", 24, []⟩]

/-- A machine that has mounted a tree of formats, and works elsewhere. -/
def mounted (formats : FileTree) : Files :=
  ⟨.directory [("home", .empty), ("mnt", .directory [("trace", formats)])], ["home"]⟩

theorem isFileable_heldTexts : heldTexts.IsFileable where
  distinct := by decide
  groups := by
    have plain : ∀ entry ∈ heldTexts.entries, Path.isPlain entry.1.1 = true := by decide
    exact fun entry member => Path.isPlain_iff.mp (plain entry member)
  names := by
    have plain : ∀ entry ∈ heldTexts.entries, Path.isPlain entry.1.2 = true := by decide
    exact fun entry member => Path.isPlain_iff.mp (plain entry member)

theorem holds_mounted {store : FormatStore} (fileable : store.IsFileable) :
    Tracefs.Holds ⟨"../mnt/trace"⟩ (mounted store.tree) store := by
  have names : (mounted .empty).namesOf "../mnt/trace" =
      [.ofString "home", .ofString "..", .ofString "mnt", .ofString "trace"] := by
    decide
  have names : (mounted store.tree).namesOf "../mnt/trace" = _ := names
  have root : ((mounted store.tree).place? "../mnt/trace").map (·.node) = some store.tree := by
    rw [Files.place?, names]
    simp [mounted, FileTree.Place.follow?_cons, FileTree.Place.enter?, FileTree.empty,
      FileTree.lookup_cons, OsText.ofString_inj]
  exact FormatStore.holds_tree fileable root

theorem reads_mounted {store : FormatStore} (fileable : store.IsFileable)
    (within : ∀ entry ∈ store.entries, entry ∈ heldTexts.entries) :
    Tracefs.Reads ⟨"../mnt/trace"⟩ (mounted store.tree) (mounted store.tree).readText := by
  apply Tracefs.reads_readText (holds_mounted fileable) fileable
  have limits : ∀ entry ∈ heldTexts.entries,
      ∀ path ∈ Tracefs.formatPath? ⟨"../mnt/trace"⟩ entry.1.1 entry.1.2,
        Files.checkPath path = .ok () ∧
          ∀ name ∈ (mounted .empty).namesOf path, name.bytes.length ≤ FileTree.longestName := by
    decide +kernel
  exact fun entry member => limits entry (within entry member)

theorem run_tracefs_eq_store_sample :
    heldTexts.IsFileable ∧
    Tracefs.Holds ⟨"../mnt/trace"⟩ (mounted heldTexts.tree) heldTexts ∧
    Tracefs.Reads ⟨"../mnt/trace"⟩ (mounted heldTexts.tree) (mounted heldTexts.tree).readText ∧
    Tracefs.Holds ⟨"../mnt/trace"⟩ (mounted heldTexts.written.tree) heldTexts.written ∧
    Tracefs.Reads ⟨"../mnt/trace"⟩ (mounted heldTexts.written.tree)
      (mounted heldTexts.written.tree).readText ∧
    Catalogue.defect? reachingEvents = none ∧
    ∃ build, run heldTexts.source reachingEvents true = .ok build ∧
      build.table.events.map (·.name) = ["ipi_raise", "sched_blocked_reason"] ∧
      ∀ source ∈ [Tracefs.source ⟨"../mnt/trace"⟩ (mounted heldTexts.tree).readText,
          heldTexts.written.source,
          Tracefs.source ⟨"../mnt/trace"⟩ (mounted heldTexts.written.tree).readText],
        ∃ other, run source reachingEvents true = .ok other ∧ other.table = build.table ∧
          other.diagnostics = build.diagnostics := by
  have fileable := isFileable_heldTexts
  have holds := holds_mounted fileable
  have reads := reads_mounted fileable fun _ member => member
  have holds' := holds_mounted fileable.written
  have reads' := reads_mounted fileable.written fun _ member => (List.mem_filter.mp member).1
  have clean : Catalogue.defect? reachingEvents = none := by decide
  obtain ⟨build, made, agree⟩ := run_tracefs_eq_store heldTexts fileable ⟨"../mnt/trace"⟩
    ⟨"../mnt/trace"⟩ _ _ _ _ holds reads holds' reads' reachingEvents clean true
  refine ⟨fileable, holds, reads, holds', reads', clean, build, made, ?_, agree⟩
  have names := check_of_run
    (fun build => build.table.events.map (·.name) == ["ipi_raise", "sched_blocked_reason"]) made
    (by decide +kernel)
  exact beq_iff_eq.mp names

end Build

end TraceLayout
