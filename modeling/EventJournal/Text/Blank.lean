/-
EventJournal/Text/Blank.lean

White space: the characters with the Unicode property White_Space, twenty-five in
all.  Trimming takes them off both ends of a text.
-/

namespace EventJournal.Text

/-- The ranges of the property White_Space, in ascending order. -/
def blankRanges : List (Nat × Nat) :=
  [(0x09, 0x0D), (0x20, 0x20), (0x85, 0x85), (0xA0, 0xA0), (0x1680, 0x1680),
   (0x2000, 0x200A), (0x2028, 0x2029), (0x202F, 0x202F), (0x205F, 0x205F), (0x3000, 0x3000)]

def isBlank (c : Char) : Bool :=
  blankRanges.any fun r => r.1 ≤ c.toNat && c.toNat ≤ r.2

theorem isBlank_of_isWhitespace {c : Char} (h : c.isWhitespace = true) : isBlank c = true := by
  simp only [Char.isWhitespace, Bool.or_eq_true, decide_eq_true_eq] at h
  rcases h with ((rfl | rfl) | rfl) | rfl <;> rfl

example : (blankRanges.map fun r => r.2 + 1 - r.1).sum = 25 := by decide

/-- Drops white space in front. -/
def trimStart (s : List Char) : List Char := s.dropWhile isBlank

/-- Drops white space in front and at the end. -/
def trim (s : List Char) : List Char := (trimStart (trimStart s).reverse).reverse

end EventJournal.Text
