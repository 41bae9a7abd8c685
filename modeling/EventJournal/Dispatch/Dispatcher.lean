/-
EventJournal/Dispatch/Dispatcher.lean

Handing the entries of a journal to projections.  A cycle reads a batch and dispatches
its entries one by one: each is made a projectable, marked pending if somebody gets it,
and handed to the projections in the order of their routes.  The first failure ends the
cycle, with the cursor back on the entry that failed, so nothing behind it is lost.  A
projection can fail, and so can the routes if they were poisoned; an error of theirs tells no
place.

What is pending for too long is dispatched again, oldest first, unless it was confirmed in
the meantime.  Failures are reported, never swallowed; a supervisor decides about them.
-/
import EventJournal.Dispatch.Site

namespace EventJournal

/-- What a cycle has done. -/
structure CycleCount where
  /-- Entries read. -/
  read : Nat := 0
  /-- Entries that somebody got. -/
  dispatched : Nat := 0
  /-- Entries that nobody got. -/
  unrouted : Nat := 0
  /-- Invocations of projections. -/
  projectionsInvoked : Nat := 0
deriving DecidableEq, Repr, Inhabited

namespace CycleCount

/-- There was nothing to read. -/
def isIdle (r : CycleCount) : Bool := r.read = 0

/-- Counts an entry that `invoked` projections got. -/
def count (r : CycleCount) (invoked : Nat) : CycleCount :=
  if invoked = 0 then { r with unrouted := r.unrouted + 1 }
  else
    { r with
      dispatched := r.dispatched + 1
      projectionsInvoked := r.projectionsInvoked + invoked }

end CycleCount

namespace Dispatcher

variable {ι σ : Type} [DecidableEq ι]

/-! ### One projectable -/

/-- Hands a projectable to projections in order, up to the first that fails. -/
def invokeAll (d : Dispatcher ι σ) (p : Projectable) :
    List ι → Site ι σ → Except DispatchError Unit × Site ι σ
  | [], s => (.ok (), s)
  | i :: rest, s => match d.invoke i p s with
    | (.error e, s') =>
      (.error (.projection (d.projections i).name .project p.id p.globalPosition e), s')
    | (.ok (), s') => invokeAll d p rest s'

/-- Hands a projectable to all projections that get it, and answers how many did.  If the
routes cannot be asked, nothing is marked and nobody is handed anything. -/
def dispatch (d : Dispatcher ι σ) (p : Projectable) (s : Site ι σ) :
    Except DispatchError Nat × Site ι σ :=
  let (answer, router) := s.router.matching p.becauseOf
  let s := { s with router }
  match answer with
  | .error e => (.error (.routing e), s)
  | .ok found =>
    if found = [] then (.ok 0, s)
    else match d.invokeAll p found
        { s with confirmations := s.confirmations.markPending s.now p } with
      | (.error e, s') => (.error e, s')
      | (.ok (), s') => (.ok found.length, s')

/-! ### Reading on -/

/-- Dispatches entries in order; a failure ends this with the cursor on the entry that
failed. -/
def dispatchEach (d : Dispatcher ι σ) :
    List Entry → CycleCount → Site ι σ → Except DispatchError CycleCount × Site ι σ
  | [], report, s => (.ok report, s)
  | e :: rest, report, s =>
    match d.dispatch (.ofEntry e) s with
    | (.error err, s') =>
      (.error err, (s'.note (.dispatched (.ofEntry e) (.error err))).seek e.globalPosition)
    | (.ok n, s') =>
      dispatchEach d rest (report.count n) (s'.note (.dispatched (.ofEntry e) (.ok n)))

/-- One cycle: reads a batch and dispatches its entries. -/
def runCycle (d : Dispatcher ι σ) (s : Site ι σ) :
    Except DispatchError CycleCount × Site ι σ :=
  match s.readNext d.config.batchSize with
  | (.error e, s') => (.error (.journal e), s')
  | (.ok entries, s') => d.dispatchEach entries { read := entries.length } s'

/-! ### Handing out again -/

/-- Dispatches a projectable again, unless it is confirmed. -/
def redispatch (d : Dispatcher ι σ) (p : Projectable) (s : Site ι σ) :
    Except DispatchError Nat × Site ι σ :=
  if s.confirmations.IsConfirmed p.id then (.ok 0, s)
  else
    let (outcome, s') := d.dispatch p s
    (outcome, s'.note (.redispatched p outcome))

/-- What is pending for longer than the timeout, oldest first. -/
def overdue (d : Dispatcher ι σ) (s : Site ι σ) : List Projectable :=
  s.confirmations.overdue s.now d.config.confirmationTimeout

/-- Dispatches projectables again up to the first failure; answers how many somebody got,
beside the `done` that were counted before. -/
def redispatchEach (d : Dispatcher ι σ) :
    List Projectable → Nat → Site ι σ → Except DispatchError Nat × Site ι σ
  | [], done, s => (.ok done, s)
  | p :: rest, done, s => match d.redispatch p s with
    | (.error e, s') => (.error e, s')
    | (.ok n, s') => redispatchEach d rest (if 0 < n then done + 1 else done) s'

/-- Dispatches again what is overdue now. -/
def redispatchOverdue (d : Dispatcher ι σ) (s : Site ι σ) :
    Except DispatchError Nat × Site ι σ :=
  d.redispatchEach (d.overdue s) 0 s

/-! ### Resetting -/

/-- The identity under which a failed reset is reported. -/
def resetId (name : String) : ProjectableId := ⟨"reset", name, 0⟩

/-- Resets the first projection on the routes that is called `name`; answers whether there
is one. -/
def resetNamed (d : Dispatcher ι σ) (name : String) (s : Site ι σ) :
    Except DispatchError Bool × Site ι σ :=
  match s.router.named? (fun i => (d.projections i).name) name with
  | none => (.ok false, s)
  | some i =>
    let (outcome, state) := (d.projections i).reset (d.stateOf s i)
    let s := { s with memory := s.memory.insert i state }
    (match outcome with
      | .error e => .error (.projection name .reset (resetId name) none e)
      | .ok () => .ok true,
      s.note (.wasReset i outcome))

/-! ### Description -/

omit [DecidableEq ι] in
/-- A description of the dispatcher at a site where it reads as `reader`. -/
def text (d : Dispatcher ι σ) (reader : String) (s : Site ι σ) : String :=
  Text.described "JournalDispatcher"
    [("reader", Text.quoted reader), ("position", toString s.cursor),
     ("router", s.router.text fun i => (d.projections i).name),
     ("config", d.config.text)] true

end Dispatcher

end EventJournal
