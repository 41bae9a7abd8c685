/-
EventJournal/Proofs/Supervision/Backoff.lean

How far exponential delays follow their formula.

By the formula, the delay before attempt `n` is the first delay times `2 ^ (n - 1)`, or the cap
if that is shorter, in whole nanoseconds and without any bound (`RetryPolicy.exactDelay`).  Two
bounds stand between the formula and a delay.  That of spans never shows, since the cap is a
span itself: what is beyond the longest span is beyond the cap (`nanos_delay`).  That of factors
does show.  The factor ends at the largest number of 32 bits, and a product with it says nothing
about the cap, so the delay stays where it is from attempt 33 on, however far away the cap may
be.

Main result: the first 32 delays are exact and double up to the cap; a later one is exact only
if the cap is reached with the largest factor, or the first delay is zero
(`followsFormula_exponential`).
-/
import EventJournal.Supervision.RetryPolicy
import Mathlib.Algebra.Order.Ring.Nat
import Mathlib.Tactic.Ring

namespace EventJournal

/-! ### Factors -/

namespace Backoff

/-- Up to 31 steps the factor is a power of two. -/
theorem factor_of_lt {n : Nat} (h : n < 32) : exponential.factor n = 2 ^ n := if_pos h

/-- From 32 steps on the factor stays. -/
theorem factor_of_le {n : Nat} (h : 32 ≤ n) : exponential.factor n = largestFactor :=
  if_neg (Nat.not_lt.2 h)

/-- From where the factor stays, it is less than the power of two. -/
theorem largestFactor_lt {n : Nat} (h : 32 ≤ n) : largestFactor < 2 ^ n :=
  lt_of_lt_of_le (by decide : largestFactor < 2 ^ 32) (Nat.pow_le_pow_right (by decide) h)

end Backoff

namespace RetryPolicy

/-! ### Delays -/

/-- A delay is the product with the factor, or the cap.  The longest span does not show. -/
theorem nanos_delay (p : RetryPolicy) (n : Nat) :
    (p.delay (n + 1)).nanos
      = min p.maxDelay.nanos (p.baseDelay.nanos * p.strategy.factor n) := by
  -- the cap is a span itself, so that the longest span is never the shortest of the three
  have hcap := p.maxDelay.le_limit
  rw [nanos_delay_succ]
  omega

/-- The delay before attempt `n` by the formula, in nanoseconds. -/
def exactDelay (p : RetryPolicy) (n : Nat) : Nat :=
  min p.maxDelay.nanos (p.baseDelay.nanos * 2 ^ (n - 1))

variable {p : RetryPolicy} (h : p.strategy = .exponential)
include h

/-- The first 32 delays are exact. -/
theorem nanos_delay_of_le {n : Nat} (hpos : 1 ≤ n) (hn : n ≤ 32) :
    (p.delay n).nanos = p.exactDelay n := by
  obtain ⟨m, rfl⟩ := Nat.exists_eq_add_of_le' hpos
  rw [nanos_delay, h, Backoff.factor_of_lt (by omega), exactDelay, Nat.add_sub_cancel]

/-- All later delays have the same factor. -/
theorem nanos_delay_of_lt {n : Nat} (hn : 32 < n) :
    (p.delay n).nanos = min p.maxDelay.nanos (p.baseDelay.nanos * Backoff.largestFactor) := by
  obtain ⟨m, rfl⟩ := Nat.exists_eq_add_of_le' (Nat.one_le_of_lt hn)
  rw [nanos_delay, h, Backoff.factor_of_le (by omega)]

/-- Behind the largest factor a delay is too short, unless by the cap or where there is nothing
to double. -/
theorem nanos_delay_eq_iff_of_lt {n : Nat} (hn : 32 < n) :
    (p.delay n).nanos = p.exactDelay n ↔
      p.baseDelay.nanos = 0 ∨ p.maxDelay.nanos ≤ p.baseDelay.nanos * Backoff.largestFactor := by
  rw [nanos_delay_of_lt h hn, exactDelay]
  rcases Nat.eq_zero_or_pos p.baseDelay.nanos with hbase | hbase
  · simp [hbase]
  · -- the exact product is longer than the one that is reached
    have hproduct : p.baseDelay.nanos * Backoff.largestFactor
        < p.baseDelay.nanos * 2 ^ (n - 1) :=
      Nat.mul_lt_mul_of_pos_left (Backoff.largestFactor_lt (by omega)) hbase
    omega

/-- No delay is longer than the formula says. -/
theorem nanos_delay_le {n : Nat} (hpos : 1 ≤ n) : (p.delay n).nanos ≤ p.exactDelay n := by
  by_cases hn : n ≤ 32
  · exact (nanos_delay_of_le h hpos hn).le
  · rw [nanos_delay_of_lt h (Nat.not_le.1 hn), exactDelay]
    have hproduct : p.baseDelay.nanos * Backoff.largestFactor
        ≤ p.baseDelay.nanos * 2 ^ (n - 1) :=
      Nat.mul_le_mul_left _ (Backoff.largestFactor_lt (by omega)).le
    omega

omit h

/-! ### The formula -/

/-- How far delays follow the formula of exponential delays. -/
structure FollowsFormula (p : RetryPolicy) : Prop where
  /-- Up to attempt 32 they are exact. -/
  exact : ∀ n, 1 ≤ n → n ≤ 32 → (p.delay n).nanos = p.exactDelay n
  /-- So far each is twice the one before, until they reach the cap. -/
  doubles : ∀ n, 1 ≤ n → n < 32 →
    (p.delay (n + 1)).nanos = min p.maxDelay.nanos (2 * (p.delay n).nanos)
  /-- Later they stay where they are. -/
  stays : ∀ n, 32 < n →
    (p.delay n).nanos = min p.maxDelay.nanos (p.baseDelay.nanos * (2 ^ 32 - 1))
  /-- A delay is exact if its factor is, if there is nothing to multiply, or by the cap; and
  only then. -/
  exact_iff : ∀ n, 1 ≤ n →
    ((p.delay n).nanos = p.exactDelay n ↔
      n ≤ 32 ∨ p.baseDelay.nanos = 0 ∨ p.maxDelay.nanos ≤ p.baseDelay.nanos * (2 ^ 32 - 1))
  /-- One that is not exact is too short; none goes beyond the cap. -/
  le : ∀ n, 1 ≤ n → (p.delay n).nanos ≤ p.exactDelay n ∧ p.delay n ≤ p.maxDelay

/-- **Exponential delays double up to their cap for 32 attempts**, and stay where they are from
then on. -/
theorem followsFormula_exponential (p : RetryPolicy) (h : p.strategy = .exponential) :
    p.FollowsFormula where
  exact _ hpos hn := nanos_delay_of_le h hpos hn
  doubles n hpos hn := by
    rw [nanos_delay_of_le h (by omega) hn, nanos_delay_of_le h hpos hn.le, exactDelay, exactDelay]
    obtain ⟨m, rfl⟩ := Nat.exists_eq_add_of_le' hpos
    -- one more step doubles the power of two, and a cap stays a cap
    have hdouble : p.baseDelay.nanos * 2 ^ (m + 1) = 2 * (p.baseDelay.nanos * 2 ^ m) := by ring
    rw [Nat.succ_sub_one, Nat.add_sub_cancel, hdouble]
    omega
  stays _ hn := nanos_delay_of_lt h hn
  exact_iff n hpos := by
    by_cases hn : n ≤ 32
    · exact iff_of_true (nanos_delay_of_le h hpos hn) (.inl hn)
    · rw [nanos_delay_eq_iff_of_lt h (Nat.not_le.1 hn), or_iff_right hn]
      rfl
  le n hpos := by
    have hexact := nanos_delay_le h hpos
    exact ⟨hexact, hexact.trans (Nat.min_le_left _ _)⟩

/-- Delays from a nanosecond up to ten seconds. -/
def fine : RetryPolicy := .exponential 40 (.ofNanos 1) (.ofSecs 10)

/-- The delay before attempt 33 is a nanosecond too short, and it is not doubled any more. -/
theorem followsFormula_fine :
    fine.strategy = .exponential ∧ fine.FollowsFormula ∧
      (fine.delay 32).nanos = 2147483648 ∧ (fine.delay 33).nanos = 4294967295 ∧
      (fine.delay 34).nanos = 4294967295 :=
  ⟨rfl, followsFormula_exponential fine rfl, by decide, by decide, by decide⟩

/-- Not all delays follow the formula. -/
theorem not_exactDelay_fine :
    ¬ ∀ p : RetryPolicy, p.strategy = .exponential →
      ∀ n, 1 ≤ n → n < 2 ^ 32 → (p.delay n).nanos = p.exactDelay n := by
  intro h
  have hexact := h fine rfl 33 (by decide) (by decide)
  revert hexact
  decide

end RetryPolicy

end EventJournal
