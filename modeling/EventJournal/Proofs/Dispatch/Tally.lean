/-
EventJournal/Proofs/Dispatch/Tally.lean

Rows of failures, as they stand in a list of verdicts.

Verdicts about one entry with no other verdict between them make a row (`row`); a cycle that
cannot read fails at no entry, and so ends a row like a failure elsewhere.  A tally is a list
of verdicts in which the supervisor was always told how long the row was, and in which an
entry failed once more only after a retry.

A decision table adds a bound to that: it does not answer with a retry once the number that
it is told exceeds what its policy allows, so no row goes on after that.

Main results: `Tally.length_row_le_succ` bounds rows, and `Tally.directive_eq` says what is
decided about the failure in which a row ends.
-/
import EventJournal.Proofs.Dispatch.Verdict
import EventJournal.Proofs.Supervision.GivingUp
import Mathlib.Data.List.DropRight

namespace EventJournal

/-! ### Rows -/

/-- The verdicts about the entry at `p` in which a list ends. -/
def row (p : Nat) (vs : List Verdict) : List Verdict := vs.rtakeWhile fun v => v.position = some p

section

variable {p : Nat} {v : Verdict} {vs : List Verdict}

theorem row_concat (h : v.position = some p) (vs : List Verdict) :
    row p (vs ++ [v]) = row p vs ++ [v] :=
  List.rtakeWhile_concat_pos _ _ _ (decide_eq_true h)

theorem row_concat_of_ne (h : v.position ≠ some p) (vs : List Verdict) :
    row p (vs ++ [v]) = [] :=
  List.rtakeWhile_concat_neg _ _ _ fun heq => h (of_decide_eq_true heq)

theorem mem_of_mem_row (h : v ∈ row p vs) : v ∈ vs := by
  have hsuffix : row p vs <:+ vs := List.rtakeWhile_suffix _ _
  exact hsuffix.mem h

/-- If the last verdict is not about the entry, then nothing is in a row. -/
theorem row_eq_nil (h : ∀ v ∈ vs.getLast?, v.position ≠ some p) : row p vs = [] := by
  rcases List.eq_nil_or_concat vs with rfl | ⟨before, v, rfl⟩
  · exact List.rtakeWhile_nil _
  · rw [List.concat_eq_append]
    apply row_concat_of_ne
    exact h v (by simp)

end

/-! ### Tallies -/

/-- The verdict is the one that belongs behind the verdicts `before`. -/
structure Verdict.Follows (v : Verdict) (decide : Supervisor) (before : List Verdict) : Prop where
  asked : v.directive = decide v.error v.attempt
  /-- The supervisor is told which one in its row the verdict is. -/
  counted : ∀ p, v.position = some p →
    v.attempt = min ((row p before).length + 1) Worker.lastAttempt
  /-- An entry fails once more only after it was held for a retry. -/
  held : ∀ p, v.position = some p → ∀ u ∈ before.getLast?, u.position = some p →
    ∃ delay, u.directive = .retryAfter delay

/-- Each verdict of the list belongs behind those before it. -/
inductive Tally (decide : Supervisor) : List Verdict → Prop
  | nil : Tally decide []
  | concat {vs : List Verdict} {v : Verdict} : Tally decide vs → v.Follows decide vs →
      Tally decide (vs ++ [v])

namespace Tally

variable {decide : Supervisor} {before after : List Verdict} {v : Verdict}

/-- A tally with one more verdict is a tally behind which the verdict belongs. -/
theorem concat_iff :
    Tally decide (before ++ [v]) ↔ Tally decide before ∧ v.Follows decide before := by
  constructor
  · intro h
    -- an appended list is no index for a case split, so it gets a name first
    generalize hvs : before ++ [v] = vs at h
    cases h with
    | nil => simp at hvs
    | concat hrest hfollows =>
      obtain ⟨rfl, hv⟩ := List.append_inj' hvs rfl
      cases hv
      exact ⟨hrest, hfollows⟩
  · intro h
    exact h.1.concat h.2

theorem of_append (h : Tally decide (before ++ after)) : Tally decide before := by
  induction after using List.reverseRecOn with
  | nil => rwa [List.append_nil] at h
  | append_singleton after v ih =>
    rw [← List.append_assoc] at h
    exact ih (concat_iff.1 h).1

theorem follows (h : Tally decide (before ++ v :: after)) : v.Follows decide before := by
  -- cut behind the verdict, so that it is the last one
  rw [List.append_cons] at h
  exact (concat_iff.1 h.of_append).2

theorem asked {vs : List Verdict} (h : Tally decide vs) :
    ∀ v ∈ vs, v.directive = decide v.error v.attempt := by
  intro v hv
  obtain ⟨before, after, rfl⟩ := List.append_of_mem hv
  exact h.follows.asked

/-- All verdicts of a row but its last are retries. -/
theorem retried {p : Nat} (h : Tally decide (before ++ [v])) (hv : v.position = some p) :
    ∀ u ∈ row p before, ∃ delay, u.directive = .retryAfter delay := by
  induction before using List.reverseRecOn generalizing v with
  | nil => simp [row]
  | append_singleton before u ih =>
    by_cases hu : u.position = some p
    · intro u' hu'
      rw [row_concat hu] at hu'
      rcases List.mem_append.1 hu' with hu' | hu'
      · exact ih h.of_append hu u' hu'
      · -- the last one of them is followed by a failure at the same entry
        cases List.mem_singleton.1 hu'
        exact h.follows.held p hv u (by simp) hu
    · rw [row_concat_of_ne hu]
      simp

end Tally

/-! ### Decision tables -/

section

variable {t : DecisionTable} {before : List Verdict} {v : Verdict} {p : Nat}

/-- Before the last verdict of a row there are at most as many as there are attempts. -/
theorem Tally.length_row_le (hm : t.retry.maxAttempts < Worker.lastAttempt)
    (h : Tally t.supervisor (before ++ [v])) (hv : v.position = some p) :
    (row p before).length ≤ t.retry.maxAttempts := by
  rcases List.eq_nil_or_concat before with rfl | ⟨before, u, rfl⟩
  · exact Nat.zero_le _
  rw [List.concat_eq_append] at h ⊢
  by_cases hu : u.position = some p
  · -- the last retry was allowed, and its number is the length of the row up to there
    obtain ⟨delay, hdelay⟩ := h.follows.held p hv u (by simp) hu
    have hlast := h.of_append.follows
    rw [hlast.asked] at hdelay
    have hallowed := (DecisionTable.of_directive_eq_retryAfter hdelay).2
    have hcounted := hlast.counted p hu
    rw [row_concat hu, List.length_append, List.length_singleton]
    omega
  · rw [row_concat_of_ne hu]
    exact Nat.zero_le _

/-- No row is longer than one failure and its retries. -/
theorem Tally.length_row_le_succ (hm : t.retry.maxAttempts < Worker.lastAttempt)
    {vs : List Verdict} (h : Tally t.supervisor vs) (p : Nat) :
    (row p vs).length ≤ t.retry.maxAttempts + 1 := by
  rcases List.eq_nil_or_concat vs with rfl | ⟨before, v, rfl⟩
  · exact Nat.zero_le _
  rw [List.concat_eq_append] at h ⊢
  by_cases hv : v.position = some p
  · rw [row_concat hv, List.length_append, List.length_singleton]
    exact Nat.succ_le_succ (h.length_row_le hm hv)
  · rw [row_concat_of_ne hv]
    exact Nat.zero_le _

/-- All failures in a row but the last are of a kind that is tried again. -/
theorem Tally.strategy_of_mem_row (h : Tally t.supervisor (before ++ [v]))
    (hv : v.position = some p) : ∀ u ∈ row p before, t.strategy u.error.kind = .retry := by
  intro u hu
  obtain ⟨delay, hdelay⟩ := h.retried hv u hu
  -- a table answers with a retry only to failures that are tried again
  rw [h.of_append.asked u (mem_of_mem_row hu)] at hdelay
  exact (DecisionTable.of_directive_eq_retryAfter hdelay).1

/-- A failure that is tried again on principle is tried again up to the last retry of its row. -/
theorem Tally.directive_eq (h : Tally t.supervisor (before ++ [v])) (hv : v.position = some p)
    (hkind : t.strategy v.error.kind = .retry)
    (hrow : (row p (before ++ [v])).length ≤ Worker.lastAttempt) :
    v.directive = if (row p (before ++ [v])).length ≤ t.retry.maxAttempts then
      .retryAfter (t.retry.delay (row p (before ++ [v])).length) else .resume := by
  have hattempt : v.attempt = (row p (before ++ [v])).length := by
    have hcounted := h.follows.counted p hv
    rw [row_concat hv, List.length_append, List.length_singleton] at hrow ⊢
    rw [hcounted, Nat.min_eq_left hrow]
  -- the table is asked with the length of the row, which is short enough to be told
  have hasked : v.directive = t.directive v.error.kind v.attempt := h.follows.asked
  rw [hasked, DecisionTable.directive_of_retry hkind, hattempt]

end

end EventJournal
