/-
EventJournal/Supervision/Decision.lean

What to do about a failure.  A supervisor looks at the error and at how often the same
work has failed in a row, and answers with a directive.  A decision table is a
supervisor that goes by the kind of the failure: it skips the work, resets the
projection, tries again as long as its policy allows, or stops.
-/
import EventJournal.Dispatch.Error
import EventJournal.Supervision.RetryPolicy

namespace EventJournal

/-- How a kind of failure is treated. -/
inductive Strategy where
  | resume
  | restart
  | retry
  | stop
deriving DecidableEq, Repr, Inhabited

namespace Strategy

def name : Strategy → String
  | resume => "resume"
  | restart => "restart"
  | retry => "retry"
  | stop => "stop"

def named? : String → Option Strategy
  | "resume" => some resume
  | "restart" => some restart
  | "retry" => some retry
  | "stop" => some stop
  | _ => none

theorem named?_name (s : Strategy) : named? s.name = some s := by cases s <;> rfl

instance : Shape Strategy := ⟨fun s => .str s.name, Shape.tag? named?⟩

end Strategy

/-- What to do after a failure. -/
inductive Directive where
  /-- Go on with the next entry. -/
  | resume
  /-- Reset the projection that failed and go on with the next entry. -/
  | restart
  /-- Dispatch the same entry again after a delay. -/
  | retryAfter (delay : Duration)
  /-- Stop; the entry is read again by whoever continues. -/
  | stop
deriving DecidableEq, Repr

/-- Decides about a failure; the number counts failures of the same work from one. -/
abbrev Supervisor : Type := DispatchError → Nat → Directive

/-- A strategy for each kind of failure and a policy for those that are tried again. -/
structure DecisionTable where
  strategy : FailureKind → Strategy
  retry : RetryPolicy

namespace DecisionTable

/-- How failures are treated if nothing else is said. -/
def usual : FailureKind → Strategy
  | .validation | .business => .resume
  | .corruption | .serialization => .restart
  | .storage | .concurrency => .retry
  | .misuse => .stop

instance : Inhabited DecisionTable := ⟨⟨usual, {}⟩⟩

def setStrategy (t : DecisionTable) (kind : FailureKind) (s : Strategy) : DecisionTable :=
  { t with strategy := fun k => if k = kind then s else t.strategy k }

def setRetry (t : DecisionTable) (retry : RetryPolicy) : DecisionTable :=
  { t with retry }

/-- The directive for a failure of some kind on attempt `attempt`; work that was tried as
often as the policy allows is given up. -/
def directive (t : DecisionTable) (kind : FailureKind) (attempt : Nat) : Directive :=
  match t.strategy kind with
  | .resume => .resume
  | .restart => .restart
  | .stop => .stop
  | .retry =>
    if t.retry.Allows attempt then .retryAfter (t.retry.delay attempt) else .resume

/-- The supervisor that goes by the table. -/
def supervisor (t : DecisionTable) : Supervisor := fun e attempt => t.directive e.kind attempt

end DecisionTable

end EventJournal
