/-
EventJournal/Confirmations.lean

Which projectables were handled.  A projectable is pending from the moment it is handed
out and confirmed once somebody reports it handled; confirmed is final.  What is pending
for too long is overdue and may be handed out again, oldest first.

The record of a pending projectable keeps the projectable as it was first handed out, the
time when it was last handed out, and how often, as a number of 32 bits.  Times are whole
nanoseconds on a clock that may be set back; a record from the future is not overdue.
-/
import EventJournal.Duration
import EventJournal.Projectable
import EventJournal.Table

namespace EventJournal

/-- What is known of a projectable that was handed out and not confirmed. -/
structure Outstanding where
  /-- The projectable, as it was first handed out. -/
  projectable : Projectable
  /-- When it was last handed out. -/
  since : Int
  /-- How often it was handed out; the count wraps around. -/
  attempts : UInt32
deriving DecidableEq, Repr

namespace Outstanding

/-- The record after it was handed out once more. -/
def again (r : Outstanding) (now : Int) : Outstanding :=
  { r with since := now, attempts := r.attempts + 1 }

/-- Longer ago than `threshold`. -/
def IsOverdue (now : Int) (threshold : Duration) (r : Outstanding) : Prop :=
  (threshold.nanos : Int) < now - r.since

instance (now : Int) (threshold : Duration) (r : Outstanding) :
    Decidable (r.IsOverdue now threshold) :=
  inferInstanceAs (Decidable ((threshold.nanos : Int) < now - r.since))

/-- Older records come first; records of one time come by identity. -/
def atMost (a b : Outstanding) : Bool :=
  if a.since = b.since then (Ord.compare a.projectable.id b.projectable.id).isLE
  else a.since < b.since

end Outstanding

/-- What is pending and what is confirmed. -/
structure Confirmations where
  pending : Table ProjectableId Outstanding
  confirmed : List ProjectableId
deriving Repr

namespace Confirmations

/-- Nothing was handed out yet. -/
def empty : Confirmations := ⟨∅, []⟩

instance : Inhabited Confirmations := ⟨empty⟩

def IsPending (c : Confirmations) (id : ProjectableId) : Prop := id ∈ c.pending

def IsConfirmed (c : Confirmations) (id : ProjectableId) : Prop := id ∈ c.confirmed

instance (c : Confirmations) (id : ProjectableId) : Decidable (c.IsPending id) :=
  inferInstanceAs (Decidable (id ∈ c.pending))

instance (c : Confirmations) (id : ProjectableId) : Decidable (c.IsConfirmed id) :=
  inferInstanceAs (Decidable (id ∈ c.confirmed))

/-- How often a pending projectable was handed out. -/
def attempts? (c : Confirmations) (id : ProjectableId) : Option UInt32 :=
  (c.pending.get? id).map Outstanding.attempts

def pendingCount (c : Confirmations) : Nat := c.pending.size

def confirmedCount (c : Confirmations) : Nat := c.confirmed.length

/-! ### Changes -/

/-- Records that a projectable is handed out, unless it is confirmed. -/
def markPending (c : Confirmations) (now : Int) (p : Projectable) : Confirmations :=
  if c.IsConfirmed p.id then c
  else
    let record := match c.pending.get? p.id with
      | none => ⟨p, now, 1⟩
      | some r => r.again now
    { c with pending := c.pending.insert p.id record }

/-- Records that a projectable was handled, whether or not it is pending. -/
def confirm (c : Confirmations) (p : Projectable) : Confirmations :=
  ⟨c.pending.erase p.id, c.confirmed.insert p.id⟩

@[grind =] theorem isConfirmed_confirm {c : Confirmations} {p : Projectable} {id : ProjectableId} :
    (c.confirm p).IsConfirmed id ↔ id = p.id ∨ c.IsConfirmed id := List.mem_insert_iff

@[grind =] theorem isPending_confirm {c : Confirmations} {p : Projectable} {id : ProjectableId} :
    (c.confirm p).IsPending id ↔ id ≠ p.id ∧ c.IsPending id := Table.mem_erase

@[simp, grind =] theorem confirmed_markPending (c : Confirmations) (now : Int) (p : Projectable) :
    (c.markPending now p).confirmed = c.confirmed := by
  unfold markPending
  split <;> rfl

theorem markPending_of_isConfirmed {c : Confirmations} {p : Projectable} (now : Int)
    (h : c.IsConfirmed p.id) : c.markPending now p = c := if_pos h

/-! ### What is overdue -/

/-- The records that are pending for longer than `threshold`, oldest first. -/
def overdueRecords (c : Confirmations) (now : Int) (threshold : Duration) :
    List Outstanding :=
  (c.pending.values.filter fun r => r.IsOverdue now threshold).mergeSort Outstanding.atMost

/-- The projectables that are pending for longer than `threshold`, oldest first. -/
def overdue (c : Confirmations) (now : Int) (threshold : Duration) : List Projectable :=
  (c.overdueRecords now threshold).map Outstanding.projectable

theorem mem_overdueRecords {c : Confirmations} {now : Int} {threshold : Duration}
    {r : Outstanding} :
    r ∈ c.overdueRecords now threshold ↔ r ∈ c.pending.values ∧ r.IsOverdue now threshold := by
  rw [overdueRecords, List.mem_mergeSort, List.mem_filter, decide_eq_true_iff]

end Confirmations

end EventJournal
