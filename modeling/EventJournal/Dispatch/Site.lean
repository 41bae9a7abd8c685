/-
EventJournal/Dispatch/Site.lean

The site at which a dispatcher works: the journal with the cursor from which it reads,
the routes, the confirmations, the states of the projections and the clock.  A site also
keeps a trace of what was done there, oldest first; nothing that is done depends on
it.

`invoke` hands a projectable to one projection.
-/
import EventJournal.Dispatch.Error
import EventJournal.Journal.Read
import EventJournal.Supervision.Decision

namespace EventJournal

/-- Which of its tasks a worker was about when it asked its supervisor. -/
inductive Round where
  /-- Reading on in the journal. -/
  | cycle
  /-- Looking after what is overdue. -/
  | recheck
deriving DecidableEq, Repr

/-- One thing that was done. -/
inductive Occurrence (ι : Type) where
  /-- A projection was handed a projectable and confirmed these identities. -/
  | invoked (projection : ι) (p : Projectable) (confirmed : List ProjectableId)
      (outcome : Except ProjectionError Unit)
  /-- An entry was dispatched in its turn. -/
  | dispatched (p : Projectable) (outcome : Except DispatchError Nat)
  /-- An overdue projectable was dispatched again. -/
  | redispatched (p : Projectable) (outcome : Except DispatchError Nat)
  /-- A projection was reset. -/
  | wasReset (projection : ι) (outcome : Except ProjectionError Unit)
  /-- A supervisor decided at some time about a failure in a row of failures. -/
  | decided (round : Round) (time : Nat) (e : DispatchError) (attempt : Nat)
      (directive : Directive)
deriving Repr

/-- Where a dispatcher works. -/
structure Site (ι σ : Type) where
  journal : Journal
  /-- The position of the next entry to be read. -/
  cursor : Nat
  /-- The outcomes of the next attempts at reading; `none` and what follows the last succeed. -/
  outages : List (Option JournalError)
  router : Router ι
  confirmations : Confirmations
  /-- The states of the projections that were invoked before. -/
  memory : Table ι σ
  /-- The time on the clock of the confirmations, in nanoseconds. -/
  now : Int
  /-- What was done, oldest first. -/
  trace : List (Occurrence ι)

/-- A dispatcher: its settings and the projections that its routes may name. -/
structure Dispatcher (ι σ : Type) where
  config : DispatchConfig
  projections : ι → Projection σ

namespace Site

variable {ι σ : Type}

/-- Adds to the trace. -/
def note (s : Site ι σ) (o : Occurrence ι) : Site ι σ := { s with trace := s.trace ++ [o] }

/-- Moves the cursor. -/
def seek (s : Site ι σ) (position : Nat) : Site ι σ := { s with cursor := position }

/-- Reads at most `most` entries from the cursor on and moves it behind them. -/
def readNext (s : Site ι σ) (most : Nat) : Except JournalError (List Entry) × Site ι σ :=
  match s.outages with
  | some e :: rest => (.error e, { s with outages := rest })
  | _ =>
    let entries := s.journal.readFrom s.cursor most
    (.ok entries, { s with outages := s.outages.tail, cursor := s.cursor + entries.length })

@[simp] theorem journal_readNext (s : Site ι σ) (most : Nat) :
    (s.readNext most).2.journal = s.journal := by
  unfold readNext
  split <;> rfl

end Site

namespace Dispatcher

variable {ι σ : Type} [DecidableEq ι]

/-- The state of a projection. -/
def stateOf (d : Dispatcher ι σ) (s : Site ι σ) (i : ι) : σ :=
  s.memory.getD i (d.projections i).initial

/-- What a projection makes of a projectable at a site. -/
def reaction (d : Dispatcher ι σ) (i : ι) (p : Projectable) (s : Site ι σ) :
    Reaction.Result σ :=
  ((d.projections i).project p (d.stateOf s i)).run s.journal s.confirmations

/-- Hands a projectable to a projection. -/
def invoke (d : Dispatcher ι σ) (i : ι) (p : Projectable) (s : Site ι σ) :
    Except ProjectionError Unit × Site ι σ :=
  let r := d.reaction i p s
  (r.outcome,
    { s with
      journal := r.journal
      confirmations := r.confirmations
      memory := s.memory.insert i r.state
      trace := s.trace ++ [.invoked i p r.confirmed r.outcome] })

end Dispatcher

end EventJournal
