/-
EventJournal/Proofs/Timestamp.lean

Points in time are read back as they are written.

The reader takes one piece after the other off the front of a text.  The writer pads its
numbers, so each piece that the reader looks for ends where the written one does: a number
of two digits because it may not be longer, a year with a sign because a hyphen follows.
One lemma for each piece says so for whatever follows it; the rest is taking off `+00:00`,
which leaves date and time alone.

Main result: `parse?_text`, for every date of the calendar and with leap seconds.
-/
import EventJournal.Proofs.Text.Decimal
import EventJournal.Timestamp
import Mathlib.Order.Nat

namespace EventJournal

open Text

/-! ### Dates -/

namespace Date

theorem of?_self (d : Date) : of? d.year d.month d.day = some d := dif_pos d.valid

/-- The numbers of months and days have at most two digits. -/
theorem month_day_lt (d : Date) : d.month < 100 ∧ d.day < 100 := by
  obtain ⟨year, month, day, hday, hdays, -⟩ := d
  unfold daysIn at hdays
  split at hdays <;> try split at hdays
  all_goals constructor <;> dsimp only at * <;> omega

end Date

namespace Timestamp

/-! ### Pieces -/

/-- Digits are read up to their number or up to something else. -/
theorem digitRun?_append {most : Nat} {ds rest : List Char} (hds : ∀ c ∈ ds, c.isDigit)
    (hne : ds ≠ []) (hmost : ds.length ≤ most)
    (hrest : ds.length = most ∨ ∃ c tail, rest = c :: tail ∧ c.isDigit = false) :
    digitRun? most (ds ++ rest) = some ((Nat.ofDigitChars 10 ds 0, ds.length), rest) := by
  have htaken : ((ds ++ rest).take most).takeWhile Char.isDigit = ds := by
    rw [List.take_append, List.take_of_length_le hmost, List.takeWhile_append_of_pos hds]
    rcases hrest with hrest | ⟨c, tail, rfl, hc⟩
    · simp [hrest]
    · cases most - ds.length <;> simp [hc]
  unfold digitRun?
  simp only [htaken]
  rw [if_neg hne, digits?_of_isDigit hds, List.drop_left]
  rfl

/-- A number that is as wide as it may be is read whatever follows. -/
theorem number?_padded {width n : Nat} (hwidth : 0 < width) (h : n < Nat.pow 10 width)
    (rest : List Char) : number? width (padded width n ++ rest) = some (n, rest) := by
  have hlength := length_padded hwidth h
  unfold number?
  rw [trimStart_append (fun _ => isBlank_of_mem_padded) (padded_ne_nil _ _),
    digitRun?_append (fun _ => isDigit_of_mem_padded) (padded_ne_nil _ _) hlength.le
      (Or.inl hlength), ofDigitChars_padded]
  rfl

theorem mark?_cons {c : Char} (h : isBlank c = false) (rest : List Char) :
    mark? c (c :: rest) = some ((), rest) := by
  unfold mark?
  rw [trimStart_cons h]
  simp

/-- The digits of a year behind a sign end at the hyphen. -/
theorem digitRun?_signed (n : Nat) (rest : List Char) :
    digitRun? (padded 4 n ++ '-' :: rest).length (padded 4 n ++ '-' :: rest)
      = some ((n, (padded 4 n).length), '-' :: rest) := by
  rw [digitRun?_append (fun _ => isDigit_of_mem_padded) (padded_ne_nil _ _) (by simp)
    (Or.inr ⟨'-', rest, rfl, rfl⟩), ofDigitChars_padded]

/-- The written form of a year. -/
def yearText (year : Int) : List Char :=
  (if year < 0 then ['-'] else if 9999 < year then ['+'] else []) ++ padded 4 year.natAbs

/-- Without a sign there are exactly four digits, the first of which is no sign. -/
theorem year?_padded {n : Nat} (h : n < 10000) (rest : List Char) :
    year? (padded 4 n ++ rest) = some ((n : Int), rest) := by
  have hread : digitRun? 4 (padded 4 n ++ rest) = some ((n, (padded 4 n).length), rest) := by
    have hlength : (padded 4 n).length = 4 := length_padded (by decide) h
    rw [digitRun?_append (fun _ => isDigit_of_mem_padded) (padded_ne_nil _ _) hlength.le
      (Or.inl hlength), ofDigitChars_padded]
  obtain ⟨c, tail, hcons⟩ := List.exists_cons_of_ne_nil (padded_ne_nil 4 n)
  have hdigit : c.isDigit := isDigit_of_mem_padded (hcons ▸ List.mem_cons_self)
  unfold year?
  rw [trimStart_append (fun _ => isBlank_of_mem_padded) (padded_ne_nil _ _)]
  rw [hcons, List.cons_append] at hread ⊢
  -- a digit is neither of the two signs
  split
  · rename_i heq
    obtain ⟨rfl, -⟩ := List.cons.inj heq
    cases hdigit
  · rename_i heq
    obtain ⟨rfl, -⟩ := List.cons.inj heq
    cases hdigit
  · rw [hread]
    rfl

theorem year?_yearText (year : Int) (rest : List Char) :
    year? (yearText year ++ '-' :: rest) = some (year, '-' :: rest) := by
  unfold yearText
  by_cases hneg : year < 0
  · rw [if_pos hneg, List.append_assoc, List.singleton_append]
    unfold year?
    rw [trimStart_cons rfl]
    simp only [digitRun?_signed, Option.map_some]
    congr 2
    omega
  rw [if_neg hneg]
  by_cases hlong : 9999 < year
  · rw [if_pos hlong, List.append_assoc, List.singleton_append]
    unfold year?
    rw [trimStart_cons rfl]
    simp only [digitRun?_signed, Option.map_some]
    congr 2
    omega
  · rw [if_neg hlong, List.nil_append, year?_padded (by omega)]
    congr 2
    omega

/-- The nanoseconds that `width` digits behind a point stand for. -/
theorem nanos?_padded {width n : Nat} (hpos : 0 < width) (hwidth : width ≤ 9)
    (h : n < Nat.pow 10 width) :
    nanos? ('.' :: padded width n ++ ['Z']) = some (n * Nat.pow 10 (9 - width), ['Z']) := by
  have hlength := length_padded hpos h
  rw [List.cons_append]
  simp only [nanos?]
  rw [digitRun?_append (fun _ => isDigit_of_mem_padded) (padded_ne_nil _ _)
    (hlength.trans_le hwidth) (Or.inr ⟨'Z', [], rfl, rfl⟩), ofDigitChars_padded, hlength]
  rfl

theorem nanos?_fraction {n : Nat} (h : n < TimeUnit.second) :
    nanos? (fraction n ++ ['Z']) = some (n, ['Z']) := by
  unfold fraction
  by_cases hzero : n = 0
  · rw [if_pos hzero, hzero]
    rfl
  rw [if_neg hzero]
  by_cases hmilli : n % TimeUnit.millisecond = 0
  · rw [if_pos hmilli, nanos?_padded (by decide) (by decide) (Nat.div_lt_of_lt_mul h)]
    exact congrArg (fun n => some (n, ['Z'])) (Nat.div_mul_cancel (Nat.dvd_of_mod_eq_zero hmilli))
  rw [if_neg hmilli]
  by_cases hmicro : n % TimeUnit.microsecond = 0
  · rw [if_pos hmicro, nanos?_padded (by decide) (by decide) (Nat.div_lt_of_lt_mul h)]
    exact congrArg (fun n => some (n, ['Z'])) (Nat.div_mul_cancel (Nat.dvd_of_mod_eq_zero hmicro))
  · have hnine : n < Nat.pow 10 9 := h
    rw [if_neg hmicro, nanos?_padded (by decide) le_rfl hnine]
    exact congrArg (fun n => some (n, ['Z'])) (Nat.mul_one n)

/-! ### The whole -/

/-- A local time without offset is the time; the sixtieth second is a leap second. -/
theorem ofLocal?_text (t : Timestamp) :
    ofLocal? t.date t.hour t.minute (if t.nanos < TimeUnit.second then t.second else t.second + 1)
      (t.nanos % TimeUnit.second) 0 = some t := by
  obtain ⟨date, hour, minute, second, nanos, hvalid⟩ := t
  have ⟨hhour, hminute, hsecond, hnanos, hleap⟩ := hvalid
  -- without offset the minutes of the day stay, and so does the date
  have hminutes : ((60 * (hour : Int) + minute - 0) % 1440).toNat = 60 * hour + minute := by
    omega
  have hbefore : ¬ (60 * (hour : Int) + minute - 0 < 0) := by omega
  have hafter : ¬ (1440 ≤ 60 * (hour : Int) + minute - 0) := by omega
  have hhours : (60 * hour + minute) / 60 = hour := by omega
  have hrest : (60 * hour + minute) % 60 = minute := by omega
  have hsixty : (if nanos < TimeUnit.second then second else second + 1) ≤ 60 := by
    split <;> omega
  unfold ofLocal?
  refine Option.bind_eq_some_iff.2 ⟨(), if_pos ⟨hhour, hminute, hsixty⟩, ?_⟩
  simp only [hminutes, if_neg hbefore, if_neg hafter, hhours, hrest]
  refine Option.bind_eq_some_iff.2 ⟨date, rfl, ?_⟩
  by_cases hsmall : nanos < TimeUnit.second
  · have hnot : second ≠ 60 := Nat.ne_of_lt hsecond
    simp only [if_pos hsmall, Nat.mod_eq_of_lt hsmall, if_neg hnot]
    exact dif_pos hvalid
  · have hlarge : TimeUnit.second ≤ nanos := Nat.le_of_not_lt hsmall
    have hback : nanos % TimeUnit.second + TimeUnit.second = nanos := by
      rw [Nat.mod_eq_sub_mod hlarge, Nat.mod_eq_of_lt (by omega), Nat.sub_add_cancel hlarge]
    obtain rfl := hleap hlarge
    simp only [if_neg hsmall, if_true, hback]
    exact dif_pos ⟨hhour, hminute, hsecond, hnanos, fun _ => trivial⟩

/-- **A point in time is read back as it is written.** -/
theorem parse?_text (t : Timestamp) : parse? t.text = some t := by
  generalize hsec : (if t.nanos < TimeUnit.second then t.second else t.second + 1) = second
  have htext : t.text = yearText t.date.year ++ '-' :: (padded 2 t.date.month ++ '-' ::
      (padded 2 t.date.day ++ 'T' :: (padded 2 t.hour ++ ':' :: (padded 2 t.minute ++ ':' ::
      (padded 2 second ++ (fraction (t.nanos % TimeUnit.second) ++ ['Z'])))))) := by
    simp only [text, Date.text, yearText, hsec, List.append_assoc, List.cons_append]
  have hsecond : second < 100 := by
    obtain ⟨-, -, hsixty, -⟩ := t.valid
    split at hsec <;> omega
  obtain ⟨hmonth, hday⟩ := t.date.month_day_lt
  obtain ⟨hhour, hminute, -⟩ := t.valid
  have hfraction := nanos?_fraction (Nat.mod_lt t.nanos (by decide : 0 < TimeUnit.second))
  have hlocal := ofLocal?_text t
  rw [hsec] at hlocal
  rw [htext]
  unfold parse?
  -- one piece after the other, each with what follows it
  refine Option.bind_eq_some_iff.2 ⟨_, year?_yearText _ _, ?_⟩
  refine Option.bind_eq_some_iff.2 ⟨_, mark?_cons rfl _, ?_⟩
  refine Option.bind_eq_some_iff.2 ⟨_, number?_padded (by decide) hmonth _, ?_⟩
  refine Option.bind_eq_some_iff.2 ⟨_, mark?_cons rfl _, ?_⟩
  refine Option.bind_eq_some_iff.2 ⟨_, number?_padded (by decide) hday _, ?_⟩
  refine Option.bind_eq_some_iff.2 ⟨_, Date.of?_self t.date, ?_⟩
  refine Option.bind_eq_some_iff.2 ⟨_, rfl, ?_⟩
  refine Option.bind_eq_some_iff.2 ⟨_, if_pos (Or.inl rfl), ?_⟩
  refine Option.bind_eq_some_iff.2 ⟨_, number?_padded (by decide) (hhour.trans (by decide)) _, ?_⟩
  refine Option.bind_eq_some_iff.2 ⟨_, mark?_cons rfl _, ?_⟩
  refine Option.bind_eq_some_iff.2
    ⟨_, number?_padded (by decide) (hminute.trans (by decide)) _, ?_⟩
  refine Option.bind_eq_some_iff.2 ⟨_, mark?_cons rfl _, ?_⟩
  refine Option.bind_eq_some_iff.2 ⟨_, number?_padded (by decide) hsecond _, ?_⟩
  refine Option.bind_eq_some_iff.2 ⟨_, hfraction, ?_⟩
  refine Option.bind_eq_some_iff.2 ⟨_, (rfl : offset? ['Z'] = some (0, [])), ?_⟩
  exact Option.bind_eq_some_iff.2 ⟨_, if_pos rfl, hlocal⟩

end Timestamp

end EventJournal
