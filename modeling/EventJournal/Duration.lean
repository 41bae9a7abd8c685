/-
EventJournal/Duration.lean

Spans of time, in whole nanoseconds from zero to the longest span that a count of
seconds below 2^64 and a count of nanoseconds below 10^9 can name.  The bound is
part of the type.  Arithmetic does not leave it: a product that would be longer is
the longest span (`nanos_scale`).

A span is written with the largest unit that fits into it, as a decimal fraction
without zeros at the end: `1.5s`, `250ms`, `3µs`, `0ns`.  Its JSON form is the record
of its seconds and the nanoseconds within the last second; reading one carries
nanoseconds beyond a second over, and allows no other fields.
-/
import EventJournal.Shape
import EventJournal.TimeUnit
import EventJournal.Text.Decimal

namespace EventJournal

/-- The nanoseconds of the longest span. -/
def Duration.limit : Nat := Nat.pow 2 64 * TimeUnit.second - 1

/-- A span of time. -/
structure Duration where
  nanos : Nat
  le_limit : nanos ≤ Duration.limit
deriving DecidableEq, Repr

namespace Duration

instance : LE Duration := ⟨fun a b => a.nanos ≤ b.nanos⟩

instance : LT Duration := ⟨fun a b => a.nanos < b.nanos⟩

instance (a b : Duration) : Decidable (a ≤ b) := inferInstanceAs (Decidable (a.nanos ≤ b.nanos))

instance (a b : Duration) : Decidable (a < b) := inferInstanceAs (Decidable (a.nanos < b.nanos))

theorem ext {a b : Duration} (h : a.nanos = b.nanos) : a = b := by
  cases a; cases b; cases h; rfl

theorem le_def {a b : Duration} : a ≤ b ↔ a.nanos ≤ b.nanos := Iff.rfl

/-- The span of `n` nanoseconds, or the longest span if `n` is beyond it. -/
def ofNanos (n : Nat) : Duration := ⟨min n limit, Nat.min_le_right _ _⟩

def ofMillis (n : Nat) : Duration := ofNanos (n * TimeUnit.millisecond)

def ofSecs (n : Nat) : Duration := ofNanos (n * TimeUnit.second)

def zero : Duration := ⟨0, Nat.zero_le _⟩

instance : Inhabited Duration := ⟨zero⟩

/-- The whole seconds. -/
def secs (d : Duration) : Nat := d.nanos / TimeUnit.second

/-- The nanoseconds within the last second. -/
def subsecNanos (d : Duration) : Nat := d.nanos % TimeUnit.second

/-- The span of `secs` seconds and `nanos` nanoseconds, if there is one. -/
def ofParts? (secs nanos : Nat) : Option Duration :=
  let total := secs * TimeUnit.second + nanos
  if h : total ≤ limit then some ⟨total, h⟩ else none

/-- `n` times the span, or the longest span if that is shorter. -/
def scale (d : Duration) (n : Nat) : Duration := ofNanos (d.nanos * n)

/-- The shorter of two spans. -/
def atMost (d cap : Duration) : Duration := if d.nanos ≤ cap.nanos then d else cap

@[simp] theorem nanos_ofNanos (n : Nat) : (ofNanos n).nanos = min n limit := rfl

@[simp] theorem nanos_zero : zero.nanos = 0 := rfl

@[simp] theorem nanos_scale (d : Duration) (n : Nat) :
    (d.scale n).nanos = min (d.nanos * n) limit := rfl

@[simp] theorem nanos_atMost (d cap : Duration) :
    (d.atMost cap).nanos = min d.nanos cap.nanos := by
  unfold atMost
  split <;> omega

theorem ofNanos_nanos (d : Duration) : ofNanos d.nanos = d :=
  ext (Nat.min_eq_left d.le_limit)

theorem secs_mul_add_subsecNanos (d : Duration) :
    d.secs * TimeUnit.second + d.subsecNanos = d.nanos := by
  unfold secs subsecNanos
  rw [Nat.mul_comm]
  exact Nat.div_add_mod d.nanos TimeUnit.second

theorem secs_lt (d : Duration) : d.secs < Nat.pow 2 64 := by
  have h := d.le_limit
  unfold secs
  rw [Nat.div_lt_iff_lt_mul (by decide)]
  have : 0 < Nat.pow 2 64 * TimeUnit.second := by decide
  unfold limit at h
  omega

theorem subsecNanos_lt (d : Duration) : d.subsecNanos < TimeUnit.second :=
  Nat.mod_lt _ (by decide)

/-! ### Text -/

/-- The span in a unit of ten to the power `width` nanoseconds. -/
def inUnit (d : Duration) (width : Nat) (unit : String) : String :=
  let rest := d.nanos % Nat.pow 10 width
  let point := if rest = 0 then "" else "." ++ String.ofList (Text.fraction width rest)
  toString (d.nanos / Nat.pow 10 width) ++ point ++ unit

/-- The span in the largest unit that fits into it. -/
def text (d : Duration) : String :=
  if TimeUnit.second ≤ d.nanos then d.inUnit 9 "s"
  else if TimeUnit.millisecond ≤ d.nanos then d.inUnit 6 "ms"
  else if TimeUnit.microsecond ≤ d.nanos then d.inUnit 3 "µs"
  else d.inUnit 0 "ns"

/-! ### JSON -/

def fieldNames : List String := ["secs", "nanos"]

def toJson (d : Duration) : Json :=
  Shape.record fieldNames [Json.nat d.secs, Json.nat d.subsecNanos]

/-- Whether an object has only fields of a span; other values pass. -/
def onlyOwnFields : Json → Bool
  | .obj fields => fields.all fun f => fieldNames.contains f.1
  | _ => true

def ofJson? (j : Json) : Option Duration := do
  guard (onlyOwnFields j)
  let [secs, nanos] ← Shape.columns fieldNames j | none
  ofParts? (← Shape.required (Json.nat? 64) secs) (← Shape.required (Json.nat? 32) nanos)

instance : Shape Duration := ⟨toJson, ofJson?⟩

end Duration

end EventJournal
