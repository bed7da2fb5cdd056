import Mathlib.Data.List.Induction
import TraceLayout.Text.Numeral

/-! What numerals denote. A numeral is digits, perhaps with a plus sign in front of them, and it is
read as the number that its digits denote, if this fits. -/
namespace TraceLayout.Text

/-- What digits denote: the last one adds its own value to ten times that of those before it. -/
inductive Digits : (cs : List Char) → (n : Nat) → Prop
  | one : d < 10 → Digits [d.digitChar] d
  | more : Digits cs n → d < 10 → Digits (cs ++ [d.digitChar]) (10 * n + d)

inductive Numeral : (cs : List Char) → (n : Nat) → Prop
  | plain : Digits cs n → Numeral cs n
  | plus : Digits cs n → Numeral ('+' :: cs) n

theorem exists_digitChar {c : Char} (digit : c.isDigit = true) : ∃ d < 10, c = d.digitChar := by
  have bounds : 48 ≤ c.toNat ∧ c.toNat ≤ 57 := by
    simpa [Char.isDigit, UInt32.le_iff_toNat_le] using digit
  have small : c.toNat - 48 < 10 := by omega
  refine ⟨c.toNat - 48, small, Char.toNat_inj.mp ?_⟩
  rw [Nat.toNat_digitChar_of_lt_ten small]
  omega

theorem ofDigitChars_concat (cs : List Char) {d : Nat} (small : d < 10) :
    Nat.ofDigitChars 10 (cs ++ [d.digitChar]) 0 = 10 * Nat.ofDigitChars 10 cs 0 + d := by
  simp [Nat.ofDigitChars_append, Nat.ofDigitChars_cons, Nat.toNat_digitChar_of_lt_ten small]

theorem digits_iff {cs : List Char} {n : Nat} :
    Digits cs n ↔
      cs ≠ [] ∧ cs.all Char.isDigit = true ∧ Nat.ofDigitChars 10 cs 0 = n := by
  constructor
  · intro denote
    induction denote with
    | one small =>
      exact ⟨by simp, by simp [Nat.isDigit_digitChar, small],
        by simpa using ofDigitChars_concat [] small⟩
    | more _ small ih =>
      obtain ⟨-, digits, value⟩ := ih
      exact ⟨by simp, by simp [digits, Nat.isDigit_digitChar, small],
        by rw [ofDigitChars_concat _ small, value]⟩
  · rintro ⟨written, digits, rfl⟩
    induction cs using List.reverseRecOn with
    | nil => contradiction
    | append_singleton cs c ih =>
      simp only [List.all_append, Bool.and_eq_true, List.all_cons, List.all_nil, and_true]
        at digits
      obtain ⟨d, small, rfl⟩ := exists_digitChar digits.2
      rw [ofDigitChars_concat cs small]
      by_cases only : cs = []
      · subst only
        simpa using Digits.one small
      · exact .more (ih only digits.1) small

/-- A digit is no sign, so a numeral is read in one way. -/
theorem numeral_iff {cs : List Char} {n : Nat} : Numeral cs n ↔ Digits (unsignedPart cs) n := by
  constructor
  · rintro (denote | denote)
    · have unsigned : unsignedPart cs = cs := by
        unfold unsignedPart
        split
        · obtain ⟨-, digits, -⟩ := digits_iff.mp denote
          exact absurd (List.all_eq_true.mp digits '+' List.mem_cons_self) (by decide)
        · rfl
      rwa [unsigned]
    · exact denote
  · intro denote
    unfold unsignedPart at denote
    split at denote
    · exact .plus denote
    · exact .plain denote

theorem numeral?_eq_some_iff {cs : List Char} {n : Nat} : numeral? cs = some n ↔ Numeral cs n := by
  rw [numeral_iff, digits_iff, numeral?, Option.ite_none_right_eq_some, Option.some.injEq,
    and_assoc]

theorem word?_eq_some_iff {cs : List Char} {n : UInt16} :
    word? cs = some n ↔ Numeral cs n.toNat := by
  rw [word?, Option.bind_eq_some_iff, ← numeral?_eq_some_iff]
  constructor
  · rintro ⟨m, denoted, fits⟩
    split at fits
    · obtain rfl := Option.some.inj fits
      rw [denoted, UInt16.toNat_ofNatLT]
    · contradiction
  · intro denoted
    exact ⟨n.toNat, denoted, by rw [dif_pos n.toNat_lt, UInt16.ofNatLT_toNat]⟩

/-- A numeral is read exactly if what it denotes fits sixteen bits. -/
theorem isSome_word?_iff {cs : List Char} :
    (word? cs).isSome = true ↔ ∃ n ≤ 65535, Numeral cs n := by
  rw [Option.isSome_iff_exists]
  constructor
  · rintro ⟨n, read⟩
    exact ⟨n.toNat, Nat.le_of_lt_succ n.toNat_lt, word?_eq_some_iff.mp read⟩
  · rintro ⟨n, bounded, denoted⟩
    refine ⟨UInt16.ofNatLT n (Nat.lt_succ_of_le bounded), word?_eq_some_iff.mpr ?_⟩
    rwa [UInt16.toNat_ofNatLT]

end TraceLayout.Text
