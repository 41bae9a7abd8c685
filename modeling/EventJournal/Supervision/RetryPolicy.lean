/-
EventJournal/Supervision/RetryPolicy.lean

How often a failed piece of work is tried again, and how long to wait before that.  The
delay is the same before every attempt, or doubles from one attempt to the next; it is
never longer than a cap.  Doubling ends at a largest factor, so that no delay overflows.
-/
import EventJournal.Duration

namespace EventJournal

/-! ### Backoff -/

/-- How delays grow. -/
inductive Backoff where
  | fixed
  /-- Each delay is twice the one before. -/
  | exponential
deriving DecidableEq, Repr, Inhabited

namespace Backoff

def name : Backoff → String
  | fixed => "fixed"
  | exponential => "exponential"

def named? : String → Option Backoff
  | "fixed" => some fixed
  | "exponential" => some exponential
  | _ => none

theorem named?_name (b : Backoff) : named? b.name = some b := by cases b <;> rfl

instance : Shape Backoff := ⟨fun b => .str b.name, Shape.tag? named?⟩

/-- The largest factor by which a delay is multiplied: the largest number of 32 bits. -/
def largestFactor : Nat := 4294967295

/-- By how much the first delay is multiplied before attempt `n + 1`. -/
def factor (b : Backoff) (n : Nat) : Nat :=
  match b with
  | fixed => 1
  | exponential => if n < 32 then Nat.pow 2 n else largestFactor

theorem factor_mono (b : Backoff) {m n : Nat} (h : m ≤ n) : b.factor m ≤ b.factor n := by
  cases b with
  | fixed => exact Nat.le_refl 1
  | exponential =>
    simp only [factor]
    split <;> split
    · exact Nat.pow_le_pow_right (by decide) h
    · have hm : Nat.pow 2 m ≤ Nat.pow 2 31 := Nat.pow_le_pow_right (by decide) (by omega)
      exact Nat.le_trans hm (by decide)
    · omega
    · exact Nat.le_refl _

end Backoff

/-! ### Policies -/

/-- A bound on attempts and the delays between them. -/
structure RetryPolicy where
  /-- How many attempts are made after the first failure. -/
  maxAttempts : Nat := 5
  baseDelay : Duration := .ofMillis 500
  /-- No delay is longer. -/
  maxDelay : Duration := .ofSecs 60
  strategy : Backoff := .exponential
deriving DecidableEq, Repr, Inhabited

namespace RetryPolicy

/-- Nothing is tried again. -/
def never : RetryPolicy := { maxAttempts := 0 }

def fixed (maxAttempts : Nat) (delay : Duration) : RetryPolicy :=
  ⟨maxAttempts, delay, delay, .fixed⟩

def exponential (maxAttempts : Nat) (base cap : Duration) : RetryPolicy :=
  ⟨maxAttempts, base, cap, .exponential⟩

/-- Whether the policy admits attempt `n`. -/
def Allows (p : RetryPolicy) (n : Nat) : Prop := n ≤ p.maxAttempts

instance (p : RetryPolicy) (n : Nat) : Decidable (p.Allows n) :=
  inferInstanceAs (Decidable (n ≤ p.maxAttempts))

/-- The delay before attempt `n`; attempts are counted from one. -/
def delay (p : RetryPolicy) : Nat → Duration
  | 0 => .zero
  | n + 1 => (p.baseDelay.scale (p.strategy.factor n)).atMost p.maxDelay

theorem nanos_delay_succ (p : RetryPolicy) (n : Nat) :
    (p.delay (n + 1)).nanos
      = min (min (p.baseDelay.nanos * p.strategy.factor n) Duration.limit) p.maxDelay.nanos := by
  rw [delay, Duration.nanos_atMost, Duration.nanos_scale]

def fieldNames : List String := ["max_attempts", "base_delay", "max_delay", "strategy"]

def toJson (p : RetryPolicy) : Json :=
  Shape.record fieldNames
    [Json.nat p.maxAttempts, p.baseDelay.toJson, p.maxDelay.toJson, Shape.write p.strategy]

def ofJson? (j : Json) : Option RetryPolicy := do
  let [maxAttempts, baseDelay, maxDelay, strategy] ← Shape.columns fieldNames j | none
  pure
    { maxAttempts := ← Shape.required (Json.nat? 32) maxAttempts
      baseDelay := ← Shape.required Shape.read baseDelay
      maxDelay := ← Shape.required Shape.read maxDelay
      strategy := ← Shape.required Shape.read strategy }

instance : Shape RetryPolicy := ⟨toJson, ofJson?⟩

end RetryPolicy

end EventJournal
