/-
EventJournal/Proofs/Supervision/GivingUp.lean

Delays get longer until work is given up, and then it is given up for good.

A delay is cut off in three places: the factor at the largest number of 32 bits, the product at
the longest span, the result at the cap.  Each time it is the smaller of two values of which one
is fixed, so no cut turns the order of two delays around, wherever it begins to show
(`delay_mono`).  A cap below the first delay is no exception; then all delays are the cap.

The order is that of whole nanoseconds.  Written as seconds and the nanoseconds within the last
of them, spans are compared by the seconds first, which comes to the same because the
nanoseconds stay below a second (`parts_le_parts_iff`).

Of the changes that are made to a table only the last of each sort counts: the last rule for a
kind of failure (`strategy_overridden`) and the last policy (`retry_overridden`).

Main result: under a policy no later delay is shorter, and a table turns once from trying again
to giving up (`switchesOnce_overridden`).
-/
import EventJournal.Supervision.Decision
import Mathlib.Data.List.Basic
import Mathlib.Data.List.Induction
import Mathlib.Data.Prod.Lex
import Mathlib.Order.MinMax

namespace EventJournal

/-! ### Spans in parts -/

namespace Duration

/-- The seconds count first, then the nanoseconds within the last one. -/
def parts (d : Duration) : Nat ×ₗ Nat := toLex (d.secs, d.subsecNanos)

theorem parts_le_parts_iff {a b : Duration} : a.parts ≤ b.parts ↔ a ≤ b := by
  have hsecond : TimeUnit.second = 1000000000 := rfl
  have ha := a.secs_mul_add_subsecNanos
  have hb := b.secs_mul_add_subsecNanos
  have ha' := a.subsecNanos_lt
  have hb' := b.subsecNanos_lt
  rw [hsecond] at ha hb ha' hb'
  rw [parts, parts, Prod.Lex.toLex_le_toLex, le_def]
  -- what is left is division with remainder by a fixed number
  show a.secs < b.secs ∨ a.secs = b.secs ∧ a.subsecNanos ≤ b.subsecNanos ↔ a.nanos ≤ b.nanos
  omega

end Duration

/-! ### Delays -/

namespace RetryPolicy

variable (p : RetryPolicy)

/-- No later delay is shorter: the factor grows, and each cut is a minimum. -/
theorem delay_mono {m n : Nat} (h : m ≤ n) : p.delay m ≤ p.delay n := by
  cases m with
  | zero => exact Nat.zero_le _
  | succ m =>
    -- `n` is not zero either, so both delays have a factor
    obtain ⟨k, rfl⟩ := Nat.exists_eq_add_of_le' (Nat.one_le_of_lt h)
    have hfactor : p.strategy.factor m ≤ p.strategy.factor k :=
      p.strategy.factor_mono (Nat.le_of_succ_le_succ h)
    have hproduct := Nat.mul_le_mul_left p.baseDelay.nanos hfactor
    rw [Duration.le_def, nanos_delay_succ, nanos_delay_succ]
    exact min_le_min_right _ (min_le_min_right _ hproduct)

/-- No delay is longer than the cap. -/
theorem delay_le_maxDelay (n : Nat) : p.delay n ≤ p.maxDelay := by
  cases n with
  | zero => exact Nat.zero_le _
  | succ n =>
    rw [Duration.le_def, nanos_delay_succ]
    exact Nat.min_le_right _ _

/-- The delays of a policy get no shorter, up to the cap. -/
structure Lengthens (p : RetryPolicy) : Prop where
  mono : ∀ m n, m ≤ n → p.delay m ≤ p.delay n
  capped : ∀ n, p.delay n ≤ p.maxDelay
  /-- It is the same in seconds and nanoseconds. -/
  parts : ∀ m n, m ≤ n →
    (p.delay m).parts ≤ (p.delay n).parts ∧ (p.delay n).parts ≤ p.maxDelay.parts
  /-- The nanoseconds make no second, and the seconds are a number of 64 bits. -/
  bounded : ∀ n, (p.delay n).subsecNanos < TimeUnit.second ∧ (p.delay n).secs < Nat.pow 2 64

theorem lengthens : p.Lengthens where
  mono _ _ h := p.delay_mono h
  capped := p.delay_le_maxDelay
  parts _ n h := by
    rw [Duration.parts_le_parts_iff, Duration.parts_le_parts_iff]
    exact ⟨p.delay_mono h, p.delay_le_maxDelay n⟩
  bounded n := ⟨(p.delay n).subsecNanos_lt, (p.delay n).secs_lt⟩

end RetryPolicy

/-! ### Directives -/

/-- Directives for the attempts at the same work: it is tried again as often as the policy allows,
and not once more. -/
structure SwitchesOnce (directive : Nat → Directive) (p : RetryPolicy) : Prop where
  retryAfter_iff : ∀ n, directive n = .retryAfter (p.delay n) ↔ n ≤ p.maxAttempts
  resume_iff : ∀ n, directive n = .resume ↔ p.maxAttempts < n
  /-- What was given up is not tried again. -/
  final : ∀ m n, m ≤ n → (∀ delay, directive m ≠ .retryAfter delay) →
    ∀ delay, directive n ≠ .retryAfter delay
  /-- The first directives, as many as one likes. -/
  course : ∀ n, (List.range' 1 n).map directive
    = (List.range' 1 (min n p.maxAttempts)).map (fun k => .retryAfter (p.delay k))
      ++ List.replicate (n - p.maxAttempts) .resume

namespace DecisionTable

variable {t : DecisionTable} {kind : FailureKind} {n : Nat}

theorem directive_of_retry (h : t.strategy kind = .retry) (n : Nat) :
    t.directive kind n
      = if n ≤ t.retry.maxAttempts then .retryAfter (t.retry.delay n) else .resume := by
  rw [directive, h]
  rfl

/-- A table answers with a retry only for kinds that are tried again, and as long as its policy
allows. -/
theorem of_directive_eq_retryAfter {delay : Duration}
    (h : t.directive kind n = .retryAfter delay) :
    t.strategy kind = .retry ∧ n ≤ t.retry.maxAttempts := by
  cases hkind : t.strategy kind with
  | retry =>
    rw [directive_of_retry hkind] at h
    split at h
    · rename_i hn
      exact ⟨rfl, hn⟩
    · cases h
  | _ =>
    rw [directive, hkind] at h
    cases h

section

variable (h : t.strategy kind = .retry)
include h

/-- As often as the policy allows, work is tried again. -/
theorem directive_of_le (hn : n ≤ t.retry.maxAttempts) :
    t.directive kind n = .retryAfter (t.retry.delay n) := by
  rw [directive_of_retry h, if_pos hn]

/-- From then on it is passed. -/
theorem directive_of_lt (hn : t.retry.maxAttempts < n) : t.directive kind n = .resume := by
  rw [directive_of_retry h, if_neg (Nat.not_le.2 hn)]

/-- The attempts that the policy allows come first, and the others are all alike. -/
theorem map_directive_range' (n : Nat) :
    (List.range' 1 n).map (t.directive kind)
      = (List.range' 1 (min n t.retry.maxAttempts)).map (fun k => .retryAfter (t.retry.delay k))
        ++ List.replicate (n - t.retry.maxAttempts) .resume := by
  have hsplit : List.range' 1 n = List.range' 1 (min n t.retry.maxAttempts)
      ++ List.range' (1 + min n t.retry.maxAttempts) (n - t.retry.maxAttempts) := by
    rw [List.range'_append_1]
    congr 1
    omega
  rw [hsplit, List.map_append]
  congr 1
  · apply List.map_congr_left
    intro k hk
    rw [List.mem_range'_1] at hk
    exact directive_of_le h (by omega)
  · rw [List.eq_replicate_iff, List.length_map, List.length_range']
    refine ⟨rfl, fun d hd => ?_⟩
    obtain ⟨k, hk, rfl⟩ := List.mem_map.1 hd
    rw [List.mem_range'_1] at hk
    exact directive_of_lt h (by omega)

/-- Under a table that says to try again, the number of the attempt alone decides. -/
theorem switchesOnce : SwitchesOnce (t.directive kind) t.retry where
  retryAfter_iff n := ⟨fun hn => (of_directive_eq_retryAfter hn).2, directive_of_le h⟩
  resume_iff n := by
    refine ⟨fun hn => ?_, directive_of_lt h⟩
    apply Nat.lt_of_not_le
    intro hle
    rw [directive_of_le h hle] at hn
    cases hn
  final m n hmn hm delay hn := by
    have hle : m ≤ t.retry.maxAttempts := hmn.trans (of_directive_eq_retryAfter hn).2
    exact hm _ (directive_of_le h hle)
  course := map_directive_range' h

end

end DecisionTable

/-! ### Changes to a table -/

/-- A change to a table. -/
inductive Override where
  | rule (kind : FailureKind) (strategy : Strategy)
  | policy (retry : RetryPolicy)

namespace Override

/-- The table after the change. -/
def make (o : Override) (t : DecisionTable) : DecisionTable :=
  match o with
  | rule kind s => t.setStrategy kind s
  | policy p => t.setRetry p

/-- The rule that is given for a kind of failure. -/
def rule? (kind : FailureKind) : Override → Option Strategy
  | rule kind' s => if kind = kind' then some s else none
  | policy _ => none

def policy? : Override → Option RetryPolicy
  | rule _ _ => none
  | policy p => some p

/-- A change of the rules is about one kind of failure. -/
theorem strategy_make (o : Override) (t : DecisionTable) (kind : FailureKind) :
    (o.make t).strategy kind = (o.rule? kind).getD (t.strategy kind) := by
  cases o with
  | policy p => rfl
  | rule kind' s =>
    show (if kind = kind' then s else t.strategy kind)
      = (if kind = kind' then some s else none).getD (t.strategy kind)
    split <;> rfl

theorem retry_make (o : Override) (t : DecisionTable) :
    (o.make t).retry = o.policy?.getD t.retry := by
  cases o <;> rfl

/-- What the last change says is the last that is said, if it says anything. -/
theorem getD_getLast?_filterMap_concat {α : Type} (f : Override → Option α) (os : List Override)
    (o : Override) (a : α) :
    ((os ++ [o]).filterMap f).getLast?.getD a = (f o).getD ((os.filterMap f).getLast?.getD a) := by
  rw [List.filterMap_append, List.getLast?_append]
  cases hf : f o <;> simp [hf]

end Override

namespace DecisionTable

/-- The table after some changes. -/
def overridden (t : DecisionTable) (os : List Override) : DecisionTable :=
  os.foldl (fun t o => o.make t) t

/-- The last rule that is given for a kind of failure, or else that of the table. -/
def ruleAfter (t : DecisionTable) (os : List Override) (kind : FailureKind) : Strategy :=
  (os.filterMap (Override.rule? kind)).getLast?.getD (t.strategy kind)

/-- The last policy that is given, or else that of the table. -/
def policyAfter (t : DecisionTable) (os : List Override) : RetryPolicy :=
  (os.filterMap Override.policy?).getLast?.getD t.retry

theorem overridden_concat (t : DecisionTable) (os : List Override) (o : Override) :
    t.overridden (os ++ [o]) = o.make (t.overridden os) := List.foldl_concat ..

/-- The last rule counts, by induction on the changes from the end. -/
theorem strategy_overridden (t : DecisionTable) (os : List Override) (kind : FailureKind) :
    (t.overridden os).strategy kind = t.ruleAfter os kind := by
  induction os using List.reverseRecOn with
  | nil => rfl
  | append_singleton os o ih =>
    rw [overridden_concat, Override.strategy_make, ih, ruleAfter, ruleAfter,
      Override.getD_getLast?_filterMap_concat]

/-- The last policy counts, likewise. -/
theorem retry_overridden (t : DecisionTable) (os : List Override) :
    (t.overridden os).retry = t.policyAfter os := by
  induction os using List.reverseRecOn with
  | nil => rfl
  | append_singleton os o ih =>
    rw [overridden_concat, Override.retry_make, ih, policyAfter, policyAfter,
      Override.getD_getLast?_filterMap_concat]

/-- **Delays get longer up to the cap, and giving up is final.**  No policy has a delay that is
shorter than one before it.  However a table was changed, work is tried again as often as the
last policy allows if the last rule for its failure says so, and never afterwards. -/
theorem switchesOnce_overridden (p : RetryPolicy) (t : DecisionTable) (os : List Override)
    (kind : FailureKind) :
    p.Lengthens ∧ (t.ruleAfter os kind = .retry →
      SwitchesOnce ((t.overridden os).directive kind) (t.policyAfter os)) := by
  refine ⟨p.lengthens, fun h => ?_⟩
  rw [← strategy_overridden] at h
  rw [← retry_overridden]
  exact switchesOnce h

/-- The last rule counts, and the last policy. -/
example :
    let t := overridden default [.rule .business .stop, .policy (.fixed 9 .zero),
      .rule .business .retry, .policy (.exponential 3 (.ofMillis 100) (.ofMillis 250))]
    (List.range' 1 5).map (t.directive .business)
      = [.retryAfter (.ofMillis 100), .retryAfter (.ofMillis 200), .retryAfter (.ofMillis 250),
        .resume, .resume] := by
  decide

end DecisionTable

end EventJournal
