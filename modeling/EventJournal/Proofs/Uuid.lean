/-
EventJournal/Proofs/Uuid.lean

Identifiers are read back as they are written: the hyphens that separate the groups are
found where the writer put them, whatever the digits are, and the length of the text tells
the written form from the other three.
-/
import EventJournal.Uuid

namespace EventJournal

namespace Uuid

/-- Taking out the hyphens leaves the text into which they were put. -/
theorem splitGroups_joinGroups {ns : List Nat} {s : List Char} (h : ns.foldr (· + ·) 0 ≤ s.length) :
    splitGroups ns (joinGroups ns s) = some s := by
  induction ns generalizing s with
  | nil => rfl
  | cons n ns ih =>
    -- the last group has no hyphen behind it, so it is a case of its own
    cases ns with
    | nil => rfl
    | cons m ns =>
      rw [List.foldr_cons] at h
      have hlength : (s.take n).length = n := List.length_take_of_le (by omega)
      have hdrop : (s.take n ++ '-' :: joinGroups (m :: ns) (s.drop n)).drop n
          = '-' :: joinGroups (m :: ns) (s.drop n) := List.drop_left' hlength
      have hrest := ih (s := s.drop n) (by rw [List.length_drop]; omega)
      rw [joinGroups, splitGroups, hdrop]
      · simp only [hrest, Option.map_some]
        rw [List.take_left' hlength, List.take_append_drop]
      all_goals exact List.cons_ne_nil _ _

theorem length_joinGroups {ns : List Nat} {s : List Char} (h : ns.foldr (· + ·) 0 ≤ s.length) :
    (joinGroups ns s).length = s.length + (ns.length - 1) := by
  induction ns generalizing s with
  | nil => rfl
  | cons n ns ih =>
    cases ns with
    | nil => rfl
    | cons m ns =>
      rw [List.foldr_cons] at h
      have hrest := ih (s := s.drop n) (by rw [List.length_drop]; omega)
      rw [joinGroups, List.length_append, List.length_cons, hrest]
      · simp only [List.length_take, List.length_drop, List.length_cons]
        omega
      all_goals exact List.cons_ne_nil _ _

theorem mapM_hexDigit?_map_hexChar (ds : List (Fin 16)) :
    (ds.map hexChar).mapM hexDigit? = some ds := by
  induction ds with
  | nil => rfl
  | cons d ds ih =>
    rw [List.map_cons, List.mapM_cons, hexDigit?_hexChar, ih]
    rfl

theorem ofDigits?_map_hexChar (u : Uuid) : ofDigits? (u.digits.map hexChar) = some u := by
  unfold ofDigits?
  rw [mapM_hexDigit?_map_hexChar]
  exact dif_pos u.length_digits

/-- **An identifier is read back as it is written.** -/
theorem parse?_text (u : Uuid) : parse? u.text = some u := by
  have hdigits : (u.digits.map hexChar).length = 32 := by
    rw [List.length_map, u.length_digits]
  have hsum : groups.foldr (· + ·) 0 ≤ (u.digits.map hexChar).length := hdigits ▸ by decide
  have hlength : u.text.length = 36 := by
    rw [text, length_joinGroups hsum, hdigits]
    rfl
  unfold parse?
  rw [if_neg (by omega), if_pos hlength, ofGroups?, text, splitGroups_joinGroups hsum]
  exact ofDigits?_map_hexChar u

end Uuid

end EventJournal
