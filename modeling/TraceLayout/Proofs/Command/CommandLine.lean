import Mathlib.Data.List.Pairwise
import Mathlib.Data.List.TakeDrop
import Mathlib.Data.List.TakeWhile
import Mathlib.Tactic.SplitIfs
import TraceLayout.Command.Arguments
import TraceLayout.Proofs.Layout.DenseTable
import TraceLayout.Proofs.Text.OsText

/-! The language of command lines. What a word may be and what it says is described apart from the
scanner, by the options that there are. The scanner understands exactly the command lines of this
language, and each of them in its only meaning. -/
namespace TraceLayout

theorem bind_eq_ok_iff {ε α β : Type} {x : Except ε α} {f : α → Except ε β} {b : β} :
    x >>= f = .ok b ↔ ∃ a, x = .ok a ∧ f a = .ok b := by
  cases x with
  | error error => simp [bind, Except.bind]
  | ok a => simp [bind, Except.bind]

theorem map_eq_ok_iff {ε α β : Type} {x : Except ε α} {f : α → β} {b : β} :
    x.map f = .ok b ↔ ∃ a, x = .ok a ∧ f a = b := by
  cases x <;> simp [Except.map]

namespace Arguments

/-- A value that an option takes. -/
structure Accepts (rule : OptionRule) (value : OsText) : Prop where
  takes : rule.takesValue = true
  written : value = "" → rule.emptyValue = true
  encoded : rule.textValue = true → ∃ text : String, value = text

/-- A word without a dash in front, or one dash alone. -/
def IsOperand (word : OsText) : Prop := word = "-" ∨ word.bytes.head? ≠ some dash

/-- What a word after two dashes says, perhaps with a value in the next word. -/
inductive MeansLong (rules : List OptionRule) : OsText → Option OsText → Given → Prop
  | flag : rule ∈ rules → rule.takesValue = false →
      MeansLong rules rule.long none (.option rule.long "")
  | equated : rule ∈ rules → Accepts rule value →
      MeansLong rules (rule.long ++ "=" ++ value) none (.option rule.long value)
  | separate : rule ∈ rules → Accepts rule value → IsOperand value →
      MeansLong rules rule.long (some value) (.option rule.long value)

/-- What letters after one dash say, perhaps with a value in the next word. Those of options without
a value may stand before others. -/
inductive MeansLetters (rules : List OptionRule) : OsText → Option OsText → List Given → Prop
  | nothing : MeansLetters rules "" none []
  | flag : rule ∈ rules → rule.letter? = some letter → rule.takesValue = false →
      MeansLetters rules cluster value? given →
      MeansLetters rules (⟨[letter]⟩ ++ cluster) value? (.option rule.long "" :: given)
  | attached : rule ∈ rules → rule.letter? = some letter → Accepts rule value → value ≠ "" →
      value.bytes.head? ≠ some equals →
      MeansLetters rules (⟨[letter]⟩ ++ value) none [.option rule.long value]
  | equated : rule ∈ rules → rule.letter? = some letter → Accepts rule value →
      MeansLetters rules (⟨[letter]⟩ ++ "=" ++ value) none [.option rule.long value]
  | separate : rule ∈ rules → rule.letter? = some letter → Accepts rule value → IsOperand value →
      MeansLetters rules ⟨[letter]⟩ (some value) [.option rule.long value]

/-- What the words of a command line say together. -/
inductive Means (rules : List OptionRule) : List OsText → List Given → Prop
  | nothing : Means rules [] []
  | twoDashes : Means rules ("--" :: words) (words.map .operand)
  | operand : IsOperand word → Means rules words given →
      Means rules (word :: words) (.operand word :: given)
  | long : MeansLong rules name value? first → Means rules words given →
      Means rules (("--" ++ name) :: (value?.toList ++ words)) (first :: given)
  | letters : MeansLetters rules cluster value? front → cluster ≠ "" → Means rules words given →
      Means rules (("-" ++ cluster) :: (value?.toList ++ words)) (front ++ given)

/-- Options whose names and letters can be told apart, and from their values. -/
structure Unambiguous (rules : List OptionRule) : Prop where
  names : (rules.map (Text.bytes ·.long)).Nodup
  letters : rules.Pairwise fun rule other => rule.letter? = other.letter? → rule.letter? = none
  written : ∀ rule ∈ rules, rule.long ≠ ""
  whole : ∀ rule ∈ rules, equals ∉ Text.bytes rule.long
  undashed : ∀ rule ∈ rules, rule.letter? ≠ some dash

section Words
variable {word : OsText}

theorem bytes_dash : Text.bytes "-" = [dash] := by decide

theorem bytes_twoDashes : Text.bytes "--" = [dash, dash] := by decide

theorem bytes_equals : Text.bytes "=" = [equals] := by decide

theorem shape_eq_operand_iff : shape word = .operand ↔ IsOperand word := by
  obtain ⟨bytes⟩ := word
  rw [IsOperand, OsText.ext_iff, OsText.bytes_ofString, bytes_dash]
  match bytes with
  | [] => simp [shape]
  | [first] => simpa [shape] using em _
  | first :: second :: rest =>
    simp only [shape]
    split_ifs <;> grind

theorem shape_eq_twoDashes_iff : shape word = .twoDashes ↔ word = "--" := by
  obtain ⟨bytes⟩ := word
  rw [OsText.ext_iff, OsText.bytes_ofString, bytes_twoDashes]
  match bytes with
  | [] | [_] => simp [shape]
  | first :: second :: rest =>
    simp only [shape]
    split_ifs <;> grind

theorem shape_eq_long_iff {name : List UInt8} :
    shape word = .long name ↔ word = "--" ++ ⟨name⟩ ∧ name ≠ [] := by
  obtain ⟨bytes⟩ := word
  rw [OsText.ext_iff, OsText.bytes_append, OsText.bytes_ofString, bytes_twoDashes]
  match bytes with
  | [] | [_] => simp [shape]
  | first :: second :: rest =>
    simp only [shape]
    split_ifs <;> grind

theorem shape_eq_letters_iff {cluster : List UInt8} :
    shape word = .letters cluster ↔
      word = "-" ++ ⟨cluster⟩ ∧ cluster ≠ [] ∧ cluster.head? ≠ some dash := by
  obtain ⟨bytes⟩ := word
  rw [OsText.ext_iff, OsText.bytes_append, OsText.bytes_ofString, bytes_dash]
  match bytes with
  | [] | [_] =>
    simp only [shape]
    grind
  | first :: second :: rest =>
    simp only [shape]
    split_ifs <;> grind

end Words

section Values
variable {rule : OptionRule} {value : OsText} {given : Given} {next : List OsText}

theorem isSome_text?_iff : value.text?.isSome = true ↔ ∃ text : String, value = text := by
  rw [Option.isSome_iff_exists]
  exact exists_congr fun text => OsText.text?_eq_some_iff

theorem attached_eq_ok_iff (takes : rule.takesValue = true) :
    attached rule value = .ok given ↔ Accepts rule value ∧ given = .option rule.long value := by
  unfold attached
  split_ifs with empty foreign
  · have refused : ¬ Accepts rule value := fun accepts => by
      simp [accepts.written empty.1] at empty
    simp [refused]
  · have refused : ¬ Accepts rule value := fun accepts => by
      have text := isSome_text?_iff.mpr (accepts.encoded foreign.1)
      simp [Option.isNone_iff_eq_none.mp foreign.2] at text
    simp [refused]
  · have accepts : Accepts rule value := by
      refine ⟨takes, fun blank => ?_, fun asked => isSome_text?_iff.mp ?_⟩
      · simpa [blank] using empty
      · simpa [asked, Option.isSome_iff_ne_none] using foreign
    simp [accepts, eq_comm]

theorem following_eq_ok_iff (takes : rule.takesValue = true) :
    following rule next = .ok given ↔
      ∃ value rest, next = value :: rest ∧ IsOperand value ∧ Accepts rule value ∧
        given = .option rule.long value := by
  cases next with
  | nil => simp [following]
  | cons word rest =>
    rw [following]
    by_cases operand : IsOperand word
    · simp [attached_eq_ok_iff takes, operand, shape_eq_operand_iff.mpr operand]
    · simp [operand, mt shape_eq_operand_iff.mp operand]

theorem following_of_accepts {words : List OsText} (accepts : Accepts rule value)
    (operand : IsOperand value) :
    following rule (value :: words) = .ok (.option rule.long value) :=
  (following_eq_ok_iff accepts.takes).mpr ⟨value, words, rfl, operand, accepts, rfl⟩

end Values

section Span

theorem span_append {name rest : List UInt8} (whole : equals ∉ name)
    (cut : rest = [] ∨ rest.head? = some equals) :
    (name ++ rest).span (· != equals) = (name, rest) := by
  have inside : ∀ byte ∈ name, (byte != equals) = true := by
    intro byte member
    exact bne_iff_ne.mpr fun same => whole (same ▸ member)
  have stop : rest.takeWhile (· != equals) = [] ∧ rest.dropWhile (· != equals) = rest := by
    cases rest with
    | nil => simp
    | cons first rest =>
      obtain rfl : first = equals := by simpa using cut
      simp
  rw [List.span_eq_takeWhile_dropWhile, List.takeWhile_append_of_pos inside,
    List.dropWhile_append_of_pos inside, stop.1, stop.2, List.append_nil]

theorem exists_span_eq (word : List UInt8) :
    ∃ name rest, word.span (· != equals) = (name, rest) ∧ word = name ++ rest ∧
      (rest = [] ∨ ∃ value, rest = equals :: value) := by
  refine ⟨_, _, List.span_eq_takeWhile_dropWhile _ _, List.takeWhile_append_dropWhile.symm, ?_⟩
  cases rest : word.dropWhile (· != equals) with
  | nil => exact .inl rfl
  | cons first value =>
    have head := List.head?_dropWhile_not (· != equals) word
    rw [rest] at head
    obtain rfl : first = equals := by simpa using head
    exact .inr ⟨value, rfl⟩

end Span

/-- What is scanned behind an option begins after its value. -/
theorem scan_value (rules : List OptionRule) (value? : Option OsText) (words : List OsText) :
    scan rules value?.isSome (value?.toList ++ words) = scan rules false words := by
  cases value? with
  | none => rfl
  | some value => simp [scan]

section Options
variable {rules : List OptionRule} {words : List OsText} {given : List Given} {value : OsText}

/-- What an option may be given: a value that it accepts, or nothing if it takes none. -/
def Admits (rule : OptionRule) (value : OsText) : Prop :=
  Accepts rule value ∨ rule.takesValue = false ∧ value = ""

theorem MeansLong.admitted {name : OsText} {value? : Option OsText} {long : String}
    (meant : MeansLong rules name value? (.option long value)) :
    ∃ rule ∈ rules, rule.long = long ∧ Admits rule value := by
  cases meant with
  | flag member noValue => exact ⟨_, member, rfl, .inr ⟨noValue, rfl⟩⟩
  | equated member accepts => exact ⟨_, member, rfl, .inl accepts⟩
  | separate member accepts => exact ⟨_, member, rfl, .inl accepts⟩

theorem MeansLetters.admitted {cluster : OsText} {value? : Option OsText} {long : String}
    (meant : MeansLetters rules cluster value? given) (member : .option long value ∈ given) :
    ∃ rule ∈ rules, rule.long = long ∧ Admits rule value := by
  induction meant with
  | nothing => contradiction
  | flag own _ noValue _ ih =>
    cases member with
    | head => exact ⟨_, own, rfl, .inr ⟨noValue, rfl⟩⟩
    | tail _ member => exact ih member
  | attached own _ accepts | equated own _ accepts | separate own _ accepts =>
    obtain ⟨rfl, rfl⟩ := Given.option.inj (List.mem_singleton.mp member)
    exact ⟨_, own, rfl, .inl accepts⟩

theorem Means.admitted {long : String} (meant : Means rules words given)
    (member : .option long value ∈ given) :
    ∃ rule ∈ rules, rule.long = long ∧ Admits rule value := by
  induction meant with
  | nothing => contradiction
  | twoDashes => simp at member
  | operand _ _ ih => exact ih (by simpa using member)
  | long own _ ih =>
    rcases List.mem_cons.mp member with rfl | member
    · exact own.admitted
    · exact ih member
  | letters own _ _ ih =>
    rcases List.mem_append.mp member with member | member
    · exact own.admitted member
    · exact ih member

theorem mem_valuesOf_iff {long : String} :
    value ∈ valuesOf long given ↔ .option long value ∈ given := by
  rw [valuesOf, List.mem_filterMap]
  constructor
  · rintro ⟨item, member, made⟩
    split at made
    · split_ifs at made with same
      obtain rfl := Option.some.inj made
      exact same ▸ member
    · contradiction
  · intro member
    exact ⟨_, member, if_pos rfl⟩

end Options

section Scanner
variable {rules : List OptionRule} (unambiguous : Unambiguous rules)
include unambiguous

theorem find?_name_iff {rule : OptionRule} {name : List UInt8} :
    rules.find? (Text.bytes ·.long == name) = some rule ↔
      rule ∈ rules ∧ Text.bytes rule.long = name :=
  Indexable.find?_eq_some_iff unambiguous.names

theorem find?_letter_iff {rule : OptionRule} {letter : UInt8} :
    rules.find? (·.letter? == some letter) = some rule ↔
      rule ∈ rules ∧ rule.letter? = some letter := by
  constructor
  · intro found
    exact ⟨List.mem_of_find?_eq_some found, by simpa using List.find?_some found⟩
  · rintro ⟨member, own⟩
    cases found : rules.find? (·.letter? == some letter) with
    | none => simpa [own] using List.find?_eq_none.mp found rule member
    | some other =>
      have own' : other.letter? = some letter := by simpa using List.find?_some found
      congr 1
      by_contra different
      have : Std.Symm fun rule other : OptionRule =>
          rule.letter? = other.letter? → rule.letter? = none :=
        ⟨fun _ _ apart same => same.trans (apart same.symm)⟩
      have unlettered :=
        unambiguous.letters.forall (List.mem_of_find?_eq_some found) member different
      simp [own, own'] at unlettered

theorem long_sound {next : List OsText} {word : List UInt8} {given : Given} {taken : Bool}
    (read : long rules next word = .ok (given, taken)) :
    ∃ value?, MeansLong rules ⟨word⟩ value? given ∧ value?.isSome = taken ∧
      value?.toList <+: next := by
  obtain ⟨name, rest, parts, rfl, cut⟩ := exists_span_eq word
  simp only [long, parts] at read
  cases found : rules.find? (Text.bytes ·.long == name) with
  | none => simp [found] at read
  | some rule =>
    obtain ⟨member, rfl⟩ := (find?_name_iff unambiguous).mp found
    rcases cut with rfl | ⟨value, rfl⟩
    · simp only [found] at read
      rw [List.append_nil]
      split_ifs at read with takes
      · obtain ⟨given', followed, made⟩ := map_eq_ok_iff.mp read
        obtain ⟨rfl, rfl⟩ := Prod.mk.inj made
        obtain ⟨value, rest, rfl, operand, accepts, rfl⟩ := (following_eq_ok_iff takes).mp followed
        exact ⟨some value, .separate member accepts operand, rfl, by simp⟩
      · obtain ⟨rfl, rfl⟩ := Prod.mk.inj (Except.ok.inj read)
        exact ⟨none, .flag member (by simpa using takes), rfl, List.nil_prefix⟩
    · simp only [found] at read
      split_ifs at read with takes
      obtain ⟨given', taken', made⟩ := map_eq_ok_iff.mp read
      obtain ⟨rfl, rfl⟩ := Prod.mk.inj made
      obtain ⟨accepts, rfl⟩ := (attached_eq_ok_iff takes).mp taken'
      have word : (⟨Text.bytes rule.long ++ equals :: value⟩ : OsText) =
          rule.long ++ "=" ++ ⟨value⟩ := by
        ext1
        simp [bytes_equals]
      rw [word]
      exact ⟨none, .equated member accepts, rfl, List.nil_prefix⟩

theorem long_complete (words : List OsText) {word : OsText} {value? : Option OsText}
    {given : Given} (meant : MeansLong rules word value? given) :
    long rules (value?.toList ++ words) word.bytes = .ok (given, value?.isSome) := by
  have lookup {rule : OptionRule} (member : rule ∈ rules) :
      rules.find? (Text.bytes ·.long == Text.bytes rule.long) = some rule :=
    (find?_name_iff unambiguous).mpr ⟨member, rfl⟩
  cases meant with
  | flag member noValue =>
    have parts := span_append (unambiguous.whole _ member) (.inl rfl)
    rw [List.append_nil] at parts
    simp [long, parts, lookup member, noValue, -List.span_eq_takeWhile_dropWhile]
  | @equated rule value member accepts =>
    have parts := @span_append _ (equals :: value.bytes) (unambiguous.whole _ member) (.inr rfl)
    have own := (attached_eq_ok_iff accepts.takes).mpr ⟨accepts, rfl⟩
    simp [long, bytes_equals, parts, lookup member, accepts.takes, own, Except.map,
      -List.span_eq_takeWhile_dropWhile]
  | @separate rule value member accepts operand =>
    have parts := span_append (unambiguous.whole _ member) (.inl rfl)
    rw [List.append_nil] at parts
    simp [long, parts, lookup member, accepts.takes, following_of_accepts accepts operand,
      Except.map,
      -List.span_eq_takeWhile_dropWhile]

theorem letters_sound {next : List OsText} {cluster : List UInt8} {given : List Given}
    {taken : Bool} (read : letters rules next cluster = .ok (given, taken)) :
    ∃ value?, MeansLetters rules ⟨cluster⟩ value? given ∧ value?.isSome = taken ∧
      value?.toList <+: next := by
  induction cluster generalizing given with
  | nil =>
    simp [letters] at read
    obtain ⟨rfl, rfl⟩ := read
    exact ⟨none, .nothing, rfl, by simp⟩
  | cons letter rest ih =>
    rw [letters] at read
    cases found : rules.find? (·.letter? == some letter) with
    | none => simp [found] at read
    | some rule =>
      obtain ⟨member, own⟩ := (find?_letter_iff unambiguous).mp found
      simp only [found] at read
      by_cases takes : rule.takesValue = true
      · rw [if_pos takes] at read
        cases rest with
        | nil =>
          obtain ⟨given', followed, made⟩ := map_eq_ok_iff.mp read
          obtain ⟨rfl, rfl⟩ := Prod.mk.inj made
          obtain ⟨value, more, rfl, operand, accepts, rfl⟩ :=
            (following_eq_ok_iff takes).mp followed
          exact ⟨some value, .separate member own accepts operand, rfl, by simp⟩
        | cons first value =>
          obtain ⟨given', taken', made⟩ := map_eq_ok_iff.mp read
          obtain ⟨rfl, rfl⟩ := Prod.mk.inj made
          obtain ⟨accepts, rfl⟩ := (attached_eq_ok_iff takes).mp taken'
          split_ifs at accepts ⊢ with separated
          · exact ⟨none, separated ▸ .equated member own accepts, rfl, List.nil_prefix⟩
          · exact ⟨none, .attached member own accepts (by simp [OsText.ext_iff])
              (by simpa using separated), rfl, List.nil_prefix⟩
      · rw [if_neg takes] at read
        obtain ⟨⟨more, taken'⟩, inner, made⟩ := bind_eq_ok_iff.mp read
        obtain ⟨rfl, rfl⟩ := Prod.mk.inj (Except.ok.inj made)
        obtain ⟨value?, meant, same, begins⟩ := ih inner
        exact ⟨value?, .flag member own (by simpa using takes) meant, same, begins⟩

theorem letters_complete (words : List OsText) {cluster : OsText} {value? : Option OsText}
    {given : List Given} (meant : MeansLetters rules cluster value? given) :
    letters rules (value?.toList ++ words) cluster.bytes = .ok (given, value?.isSome) := by
  have lookup {rule : OptionRule} {letter : UInt8} (member : rule ∈ rules)
      (own : rule.letter? = some letter) : rules.find? (·.letter? == some letter) = some rule :=
    (find?_letter_iff unambiguous).mpr ⟨member, own⟩
  induction meant with
  | nothing => rfl
  | flag member own noValue _ ih =>
    simp [letters, lookup member own, noValue, ih, bind, Except.bind, pure, Except.pure]
  | @attached rule letter value member own accepts written plain =>
    obtain ⟨bytes⟩ := value
    cases bytes with
    | nil => exact absurd rfl written
    | cons first rest =>
      have unequal : first ≠ equals := by simpa using plain
      simp [letters, lookup member own, accepts.takes, unequal,
        (attached_eq_ok_iff accepts.takes).mpr ⟨accepts, rfl⟩, Except.map]
  | equated member own accepts =>
    simp [letters, lookup member own, accepts.takes, bytes_equals,
        (attached_eq_ok_iff accepts.takes).mpr ⟨accepts, rfl⟩, Except.map]
  | @separate rule letter value member own accepts operand =>
    simp [letters, lookup member own, accepts.takes, following_of_accepts accepts operand,
      Except.map]

theorem MeansLong.written {name : OsText} {value? : Option OsText} {given : Given}
    (meant : MeansLong rules name value? given) : name.bytes ≠ [] := by
  have named {rule : OptionRule} (member : rule ∈ rules) : Text.bytes rule.long ≠ [] := fun empty =>
    unambiguous.written rule member (Text.bytes_inj.mp (empty.trans Text.bytes_empty.symm))
  cases meant with
  | flag member => exact named member
  | equated member => simp [named member]
  | separate member => exact named member

theorem MeansLetters.undashed {cluster : OsText} {value? : Option OsText} {given : List Given}
    (meant : MeansLetters rules cluster value? given) : cluster.bytes.head? ≠ some dash := by
  have first {rule : OptionRule} {letter : UInt8} (member : rule ∈ rules)
      (own : rule.letter? = some letter) : letter ≠ dash := fun same =>
    unambiguous.undashed rule member (same ▸ own)
  cases meant with
  | nothing => simp
  | flag member own => simpa using first member own
  | attached member own => simpa using first member own
  | equated member own => simpa using first member own
  | separate member own => simpa using first member own

theorem scan_sound {words : List OsText} {given : List Given}
    (read : scan rules false words = .ok given) : Means rules words given := by
  induction length : words.length using Nat.strongRecOn generalizing words given with
  | ind count ih =>
    cases words with
    | nil =>
      obtain rfl := Except.ok.inj read
      exact .nothing
    | cons word words =>
      have behind {value? : Option OsText} {given : List Given}
          (begins : value?.toList <+: words)
          (read : scan rules value?.isSome words = .ok given) :
          ∃ rest, words = value?.toList ++ rest ∧ Means rules rest given := by
        obtain ⟨rest, rfl⟩ := begins
        rw [scan_value] at read
        have shorter : rest.length < count := by
          simp at length
          omega
        exact ⟨rest, rfl, ih rest.length shorter read rfl⟩
      rw [scan, if_neg Bool.false_ne_true] at read
      cases kind : shape word with
      | operand =>
        simp only [kind] at read
        obtain ⟨given, more, made⟩ := bind_eq_ok_iff.mp read
        obtain rfl := Except.ok.inj made
        obtain ⟨_, rfl, meant⟩ := @behind none _ List.nil_prefix more
        exact .operand (shape_eq_operand_iff.mp kind) meant
      | twoDashes =>
        simp only [kind] at read
        obtain rfl := Except.ok.inj read
        rw [shape_eq_twoDashes_iff.mp kind]
        exact .twoDashes
      | long name =>
        simp only [kind] at read
        obtain ⟨⟨first, taken⟩, own, read⟩ := bind_eq_ok_iff.mp read
        obtain ⟨given, more, made⟩ := bind_eq_ok_iff.mp read
        obtain rfl := Except.ok.inj made
        obtain ⟨value?, meant, rfl, begins⟩ := long_sound unambiguous own
        obtain ⟨rest, rfl, others⟩ := behind begins more
        rw [(shape_eq_long_iff.mp kind).1]
        exact .long meant others
      | letters cluster =>
        simp only [kind] at read
        obtain ⟨⟨front, taken⟩, own, read⟩ := bind_eq_ok_iff.mp read
        obtain ⟨given, more, made⟩ := bind_eq_ok_iff.mp read
        obtain rfl := Except.ok.inj made
        obtain ⟨value?, meant, rfl, begins⟩ := letters_sound unambiguous own
        obtain ⟨rest, rfl, others⟩ := behind begins more
        obtain ⟨rfl, written, -⟩ := shape_eq_letters_iff.mp kind
        exact .letters meant (by simpa [OsText.ext_iff] using written) others

theorem scan_complete {words : List OsText} {given : List Given} (meant : Means rules words given) :
    scan rules false words = .ok given := by
  induction meant with
  | nothing => rfl
  | twoDashes => simp [scan, shape_eq_twoDashes_iff.mpr rfl]
  | operand operand _ ih =>
    simp [scan, shape_eq_operand_iff.mpr operand, ih, bind, Except.bind, pure, Except.pure]
  | @long name value? first words given meant _ ih =>
    have kind : shape ("--" ++ name) = .long name.bytes :=
      shape_eq_long_iff.mpr ⟨rfl, MeansLong.written unambiguous meant⟩
    have own := long_complete unambiguous words meant
    simp [scan, kind, own, scan_value, ih, bind, Except.bind, pure, Except.pure]
  | @letters cluster value? front words given meant written _ ih =>
    have some_ : cluster.bytes ≠ [] := fun empty => written (OsText.ext empty)
    have kind : shape ("-" ++ cluster) = .letters cluster.bytes :=
      shape_eq_letters_iff.mpr ⟨rfl, some_, MeansLetters.undashed unambiguous meant⟩
    have own := letters_complete unambiguous words meant
    simp [scan, kind, own, scan_value, ih, bind, Except.bind, pure, Except.pure]

/-- The scanner understands a command line exactly if it says something, and so a command line says
one thing at most. -/
theorem scan_eq_ok_iff {words : List OsText} {given : List Given} :
    scan rules false words = .ok given ↔ Means rules words given :=
  ⟨scan_sound unambiguous, scan_complete unambiguous⟩

/-- A command line is read exactly if it says something and repeats no option that is given once at
most. -/
theorem read_eq_ok_iff {words : List OsText} {given : List Given} :
    read rules words = .ok given ↔ Means rules words given ∧
      ∀ rule ∈ rules, rule.repeatable = false → (valuesOf rule.long given).length ≤ 1 := by
  rw [read, bind_eq_ok_iff]
  simp only [scan_eq_ok_iff unambiguous]
  constructor
  · rintro ⟨scanned, meant, checked⟩
    split at checked
    · contradiction
    · rename_i once
      obtain rfl := Except.ok.inj checked
      refine ⟨meant, fun rule member single => ?_⟩
      simpa [single] using List.find?_eq_none.mp once rule member
  · rintro ⟨meant, once⟩
    refine ⟨given, meant, ?_⟩
    have none_ : rules.find? (fun rule =>
        !rule.repeatable && decide (1 < (valuesOf rule.long given).length)) = none :=
      List.find?_eq_none.mpr fun rule member => by
        cases single : rule.repeatable with
        | true => simp
        | false => simpa using once rule member single
    rw [none_]
    rfl

end Scanner

end TraceLayout.Arguments
