/-
EventJournal/Proofs/Text/Decimal.lean

Decimal digits that are written are read back.

A reader of digits computes what the digits stand for (`digits?_of_isDigit`), and zeros in
front count for nothing, so a padded number stands for the number (`ofDigitChars_padded`).  A
number that fits into its width is as wide as it is asked to be (`length_padded`), which is
what tells readers of fixed widths where it ends.
-/
import EventJournal.Text.Blank
import EventJournal.Text.Decimal
import Mathlib.Data.List.Basic

namespace EventJournal.Text

theorem digits?_of_isDigit {s : List Char} (h : ∀ c ∈ s, c.isDigit) (acc : Nat) :
    digits? acc s = some (Nat.ofDigitChars 10 s acc) := by
  induction s generalizing acc with
  | nil => rfl
  | cons c rest ih =>
    rw [digits?, digit?, if_pos (h c List.mem_cons_self), Option.bind_some,
      ih fun d hd => h d (List.mem_cons_of_mem _ hd), Nat.ofDigitChars_cons]

theorem padded_eq (width n : Nat) :
    padded width n
      = List.replicate (width - (Nat.toDigits 10 n).length) '0' ++ Nat.toDigits 10 n := by
  unfold padded
  rw [Nat.toString_eq_ofList_toDigits, String.toList_ofList]

theorem isDigit_of_mem_padded {width n : Nat} {c : Char} (h : c ∈ padded width n) :
    c.isDigit := by
  rw [padded_eq, List.mem_append] at h
  rcases h with h | h
  · rw [List.eq_of_mem_replicate h]
    rfl
  · exact Nat.isDigit_of_mem_toDigits (by decide) (by decide) h

theorem padded_ne_nil (width n : Nat) : padded width n ≠ [] := by
  rw [padded_eq]
  exact List.append_ne_nil_of_right_ne_nil _ Nat.toDigits_ne_nil

theorem ofDigitChars_padded (width n : Nat) : Nat.ofDigitChars 10 (padded width n) 0 = n := by
  rw [padded_eq, Nat.ofDigitChars_append, Nat.ofDigitChars_replicate_zero, Nat.mul_zero,
    Nat.ofDigitChars_ten_toDigits]

/-- A number is as wide as it is asked to be, if it is below the power of ten. -/
theorem length_padded {width n : Nat} (hwidth : 0 < width) (h : n < Nat.pow 10 width) :
    (padded width n).length = width := by
  have hdigits := (Nat.length_toDigits_le_iff (by decide) hwidth).2 h
  rw [padded_eq, List.length_append, List.length_replicate]
  omega

/-- A digit is no white space. -/
theorem isBlank_of_isDigit {c : Char} (h : c.isDigit) : isBlank c = false := by
  have hrange : 48 ≤ c.toNat ∧ c.toNat ≤ 57 := by
    simpa [Char.isDigit, UInt32.le_iff_toNat_le] using h
  -- every range of white space ends before the digits or begins behind them
  have hapart : ∀ r ∈ blankRanges, r.2 < 48 ∨ 57 < r.1 := by decide
  rw [isBlank, List.any_eq_false]
  intro r hr
  have := hapart r hr
  simp only [Bool.and_eq_true, decide_eq_true_eq]
  omega

theorem isBlank_of_mem_padded {width n : Nat} {c : Char} (h : c ∈ padded width n) :
    isBlank c = false := isBlank_of_isDigit (isDigit_of_mem_padded h)

theorem trimStart_cons {c : Char} (h : isBlank c = false) (rest : List Char) :
    trimStart (c :: rest) = c :: rest := List.dropWhile_cons_of_neg (by simp [h])

/-- Nothing is trimmed off what is no white space. -/
theorem trimStart_append {s : List Char} (h : ∀ c ∈ s, isBlank c = false) (hne : s ≠ [])
    (rest : List Char) : trimStart (s ++ rest) = s ++ rest := by
  obtain ⟨c, s, rfl⟩ := List.exists_cons_of_ne_nil hne
  exact trimStart_cons (h c List.mem_cons_self) _

end EventJournal.Text
