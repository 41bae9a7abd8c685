/-
EventJournal/Host/Rhythm.lean

Ticks at even distances.  A rhythm ticks at its origin and then again whenever its period
has passed; ticks never move.  No timer runs for longer than thirty years: a longer
period is cut to them.

Clocks show whole milliseconds, so whoever waits for a tick is woken at the first
millisecond that is not before it.  `ticksAt` counts the ticks of a millisecond, and
`wakeAfter` is the next millisecond that has any.
-/
import EventJournal.Duration

namespace EventJournal

/-- Ticks at `origin`, `origin + period`, …, in nanoseconds. -/
structure Rhythm where
  origin : Nat
  period : Nat
deriving DecidableEq, Repr

namespace Rhythm

/-- The longest run of a timer: thirty years of 365 days. -/
def longest : Nat := 30 * 365 * TimeUnit.day

/-- Ticks from `origin` on, at a distance of `period`. -/
def every (origin : Nat) (period : Duration) : Rhythm := ⟨origin, min period.nanos longest⟩

/-- The number of ticks up to and including the time `t`. -/
def ticksUpTo (r : Rhythm) (t : Nat) : Nat :=
  if t < r.origin ∨ r.period = 0 then 0 else (t - r.origin) / r.period + 1

theorem lt_ticksUpTo_iff {r : Rhythm} (h : 0 < r.period) {k t : Nat} :
    k < r.ticksUpTo t ↔ r.origin + k * r.period ≤ t := by
  unfold ticksUpTo
  by_cases ht : t < r.origin
  · rw [if_pos (Or.inl ht)]
    have : ¬ r.origin + k * r.period ≤ t := by omega
    simp only [Nat.not_lt_zero, this]
  · have hp : ¬ (t < r.origin ∨ r.period = 0) := by omega
    rw [if_neg hp, Nat.lt_succ_iff, Nat.le_div_iff_mul_le h]
    omega

/-! ### Milliseconds -/

/-- The number of ticks up to and including the millisecond `ms`. -/
def ticksBy (r : Rhythm) (ms : Nat) : Nat := r.ticksUpTo (ms * TimeUnit.millisecond)

/-- The number of ticks for which one is woken at the millisecond `ms`. -/
def ticksAt (r : Rhythm) (ms : Nat) : Nat := r.ticksBy ms - r.ticksBy (ms - 1)

/-- The first whole millisecond that is not before the time `t`. -/
def wakeTime (t : Nat) : Nat := (t + (TimeUnit.millisecond - 1)) / TimeUnit.millisecond

theorem wakeTime_le_iff {t ms : Nat} : wakeTime t ≤ ms ↔ t ≤ ms * TimeUnit.millisecond := by
  unfold wakeTime TimeUnit.millisecond TimeUnit.microsecond
  omega

/-- The millisecond of the first tick that is not yet over at the millisecond `ms`. -/
def wakeAfter (r : Rhythm) (ms : Nat) : Nat := wakeTime (r.origin + r.ticksBy ms * r.period)

theorem lt_wakeAfter {r : Rhythm} (h : 0 < r.period) (ms : Nat) : ms < r.wakeAfter ms := by
  have hn : ¬ r.ticksBy ms < r.ticksBy ms := Nat.lt_irrefl _
  rw [ticksBy, lt_ticksUpTo_iff h] at hn
  exact Nat.lt_of_not_le fun hle => hn (wakeTime_le_iff.1 hle)

end Rhythm

end EventJournal
