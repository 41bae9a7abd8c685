/-
EventJournal/Dispatch/Error.lean

Why a dispatcher stopped what it was doing.  When a projection failed, the error says
which one, at what, and at which place of the journal.  When the journal could not be read or
the routes could not be asked, it tells no place.
-/
import EventJournal.Dispatch.Config
import EventJournal.Projection.Basic
import EventJournal.Routing.Router

namespace EventJournal

/-- What a projection was asked to do. -/
inductive Task where
  | project
  | reset
deriving DecidableEq, Repr

def Task.text : Task → String
  | project => "project"
  | reset => "reset"

/-- Why a dispatcher stopped. -/
inductive DispatchError where
  | journal (source : JournalError)
  | routing (source : RoutingError)
  | config (source : ConfigError)
  /-- A projection failed at a task; `position` is the place of the entry concerned. -/
  | projection (name : String) (task : Task) (id : ProjectableId) (position : Option Nat)
      (source : ProjectionError)
deriving DecidableEq, Repr

namespace DispatchError

def message : DispatchError → String
  | journal source => source.message
  | routing source => source.message
  | config source => "invalid dispatcher config: " ++ source.message
  | projection name task id _ source =>
    "projection '" ++ name ++ "' failed to " ++ task.text ++ " " ++ id.text ++ ": "
      ++ source.message

def kind : DispatchError → FailureKind
  | journal source => source.kind
  | routing (.noPatterns _) => .misuse
  | routing .poisoned => .corruption
  | config _ => .misuse
  | projection _ _ _ _ source => source.kind

/-- The place of the entry at which a projection failed. -/
def globalPosition : DispatchError → Option Nat
  | projection _ _ _ position _ => position
  | _ => none

/-- The name of the projection that failed. -/
def projectionName : DispatchError → Option String
  | projection name _ _ _ _ => some name
  | _ => none

end DispatchError

end EventJournal
