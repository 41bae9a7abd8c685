/-
EventJournal/Proofs/Text/Numeral.lean

Numerals with white space around them.

What trimming leaves is stated as a split of the text: white space, a middle, white space
(`exists_of_trim`).  A middle without white space is what trimming leaves (`trim_append`), and
no numeral has white space in it.  So a numeral can be read from a text after trimming exactly
if the text is a numeral with white space around it (`numeral?_trim_eq_some_iff`).
-/
import EventJournal.Proofs.Text.Decimal
import Mathlib.Data.List.TakeWhile

namespace EventJournal.Text

/-! ### White space -/

/-- There is nothing but white space. -/
def Blank (s : List Char) : Prop := ∀ c ∈ s, isBlank c

instance (s : List Char) : Decidable (Blank s) := List.decidableBAll (isBlank ·) s

/-- What is trimmed off in front is white space. -/
theorem exists_of_trimStart (s : List Char) : ∃ front, Blank front ∧ s = front ++ trimStart s :=
  ⟨s.takeWhile isBlank, fun _ => List.mem_takeWhile_imp, List.takeWhile_append_dropWhile.symm⟩

/-- Trimming takes white space off both ends. -/
theorem exists_of_trim (s : List Char) :
    ∃ front back, Blank front ∧ Blank back ∧ s = front ++ trim s ++ back := by
  obtain ⟨front, hfront, hs⟩ := exists_of_trimStart s
  obtain ⟨back, hback, hrest⟩ := exists_of_trimStart (trimStart s).reverse
  refine ⟨front, back.reverse, hfront, fun c hc => hback c (List.mem_reverse.1 hc), ?_⟩
  -- the second pass runs over the reversed text, so its front is the back
  have hmiddle : trimStart s = trim s ++ back.reverse := by
    rw [trim, ← List.reverse_append, ← hrest, List.reverse_reverse]
  rw [List.append_assoc, ← hmiddle, ← hs]

theorem trimStart_append_of_blank {front : List Char} (h : Blank front) (rest : List Char) :
    trimStart (front ++ rest) = trimStart rest := List.dropWhile_append_of_pos h

theorem trimStart_of_blank {s : List Char} (h : Blank s) : trimStart s = [] := by
  have hs := trimStart_append_of_blank h []
  rwa [List.append_nil] at hs

/-- A middle without white space is left. -/
theorem trim_append {front t back : List Char} (hfront : Blank front) (hback : Blank back)
    (h : ∀ c ∈ t, isBlank c = false) : trim (front ++ t ++ back) = t := by
  rw [trim, List.append_assoc, trimStart_append_of_blank hfront]
  by_cases hne : t = []
  · -- nothing stops the first pass, which takes the white space behind as well
    rw [hne, List.nil_append, trimStart_of_blank hback]
    rfl
  · have hback' : Blank back.reverse := fun c hc => hback c (List.mem_reverse.1 hc)
    have h' : ∀ c ∈ t.reverse, isBlank c = false := fun c hc => h c (List.mem_reverse.1 hc)
    have hlast := trimStart_append h' (mt List.reverse_eq_nil_iff.1 hne) []
    rw [List.append_nil] at hlast
    rw [trimStart_append h hne, List.reverse_append, trimStart_append_of_blank hback',
      hlast, List.reverse_reverse]

/-- Nothing is left exactly of white space. -/
theorem trim_eq_nil_iff {s : List Char} : trim s = [] ↔ Blank s := by
  constructor
  · intro h
    obtain ⟨front, back, hfront, hback, hs⟩ := exists_of_trim s
    rw [hs, h, List.append_nil]
    exact fun c hc => (List.mem_append.1 hc).elim (hfront c) (hback c)
  · intro h
    have hs := trim_append h (List.forall_mem_nil _) (List.forall_mem_nil _)
    rwa [List.append_nil, List.append_nil] at hs

/-! ### Numerals -/

/-- The numerals of numbers: one or more digits, with a plus sign in front or without. -/
inductive Numeral : List Char → Nat → Prop
  | plain {digits : List Char} : digits ≠ [] → (∀ c ∈ digits, c.isDigit) →
      Numeral digits (Nat.ofDigitChars 10 digits 0)
  | signed {digits : List Char} : digits ≠ [] → (∀ c ∈ digits, c.isDigit) →
      Numeral ('+' :: digits) (Nat.ofDigitChars 10 digits 0)

theorem isBlank_of_numeral {s : List Char} {n : Nat} (h : Numeral s n) :
    ∀ c ∈ s, isBlank c = false := by
  cases h with
  | plain _ hdigits => exact fun c hc => isBlank_of_isDigit (hdigits c hc)
  | signed _ hdigits =>
    exact List.forall_mem_cons.2 ⟨by decide, fun c hc => isBlank_of_isDigit (hdigits c hc)⟩

/-- A number is written as a numeral. -/
theorem numeral_toString (n : Nat) : Numeral (toString n).toList n := by
  have hdigits : (toString n).toList = Nat.toDigits 10 n := by
    rw [Nat.toString_eq_ofList_toDigits, String.toList_ofList]
  have hvalue : Nat.ofDigitChars 10 (Nat.toDigits 10 n) 0 = n := Nat.ofDigitChars_ten_toDigits
  have hnumeral := Numeral.plain Nat.toDigits_ne_nil fun c hc =>
    Nat.isDigit_of_mem_toDigits (n := n) (b := 10) (by decide) (by decide) hc
  rwa [hvalue, ← hdigits] at hnumeral

/-- Only digits are read as digits, by induction on them. -/
theorem isDigit_of_digits? {s : List Char} {acc n : Nat} (h : digits? acc s = some n) :
    ∀ c ∈ s, c.isDigit := by
  induction s generalizing acc with
  | nil => exact List.forall_mem_nil _
  | cons c rest ih =>
    obtain ⟨d, hd, hrest⟩ := Option.bind_eq_some_iff.1 h
    have hc : c.isDigit := by
      unfold digit? at hd
      split at hd
      · assumption
      · cases hd
    exact List.forall_mem_cons.2 ⟨hc, ih hrest⟩

/-- Digits are read as the number that they make in the decimal system. -/
theorem digits?_eq_some_iff {s : List Char} {n : Nat} :
    digits? 0 s = some n ↔ (∀ c ∈ s, c.isDigit) ∧ Nat.ofDigitChars 10 s 0 = n := by
  constructor
  · intro h
    have hdigits := isDigit_of_digits? h
    rw [digits?_of_isDigit hdigits, Option.some.injEq] at h
    exact ⟨hdigits, h⟩
  · rintro ⟨hdigits, rfl⟩
    exact digits?_of_isDigit hdigits 0

/-- Numerals are read, and nothing else. -/
theorem numeral?_eq_some_iff {s : List Char} {n : Nat} : numeral? s = some n ↔ Numeral s n := by
  constructor
  · intro h
    unfold numeral? at h
    split at h
    · cases h
    · rename_i c rest
      split at h
      · rename_i hplus
        -- a sign alone is no numeral
        simp only [Option.ite_none_left_eq_some] at h
        obtain ⟨hdigits, rfl⟩ := digits?_eq_some_iff.1 h.2
        rw [hplus]
        exact .signed h.1 hdigits
      · obtain ⟨hdigits, rfl⟩ := digits?_eq_some_iff.1 h
        exact .plain (List.cons_ne_nil _ _) hdigits
  · rintro (⟨hne, hdigits⟩ | ⟨hne, hdigits⟩)
    · obtain ⟨c, rest, rfl⟩ := List.exists_cons_of_ne_nil hne
      -- a sign is no digit, so that no text has both forms
      have hplus : c ≠ '+' := by
        rintro rfl
        exact absurd (hdigits '+' List.mem_cons_self) (by decide)
      rw [numeral?, if_neg hplus]
      exact digits?_of_isDigit hdigits 0
    · rw [numeral?, if_pos rfl, if_neg hne]
      exact digits?_of_isDigit hdigits 0

/-- The text is a numeral of `n` with white space around it. -/
def Spells (s : List Char) (n : Nat) : Prop :=
  ∃ front t back, Blank front ∧ Blank back ∧ s = front ++ t ++ back ∧ Numeral t n

/-- What is read after trimming is a numeral with white space around it. -/
theorem numeral?_trim_eq_some_iff {s : List Char} {n : Nat} :
    numeral? (trim s) = some n ↔ Spells s n := by
  rw [numeral?_eq_some_iff]
  constructor
  · intro h
    obtain ⟨front, back, hfront, hback, hs⟩ := exists_of_trim s
    exact ⟨front, trim s, back, hfront, hback, hs, h⟩
  · rintro ⟨front, t, back, hfront, hback, rfl, h⟩
    rwa [trim_append hfront hback (isBlank_of_numeral h)]

end EventJournal.Text
