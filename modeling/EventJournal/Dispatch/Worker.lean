/-
EventJournal/Dispatch/Worker.lean

A worker lets a dispatcher run unattended.  At each tick of its clock it runs a cycle,
and at ticks of a second clock it looks after what is overdue.  It asks a supervisor
about every failure and does as it is told: skips the entry, resets the projection and
skips the entry, waits and tries the same entry again, or stops.

Failures of the same entry are counted as long as nothing else happens between them.
A wait beyond the end of the clock ends the worker, with the cursor left at the entry.
While the worker waits for a retry its cycles are skipped; looking after what is overdue
does not wait.  No cursor is involved in a failure there, so only resetting and stopping
apply.
-/
import EventJournal.Dispatch.Dispatcher

namespace EventJournal

/-- What a worker has done so far.  A cycle that fails adds to the failures only. -/
structure WorkerTally where
  cycles : Nat := 0
  entriesRead : Nat := 0
  dispatched : Nat := 0
  unrouted : Nat := 0
  failures : Nat := 0
  redispatched : Nat := 0
deriving DecidableEq, Repr, Inhabited

namespace WorkerTally

/-- Adds a cycle that ended well. -/
def record (s : WorkerTally) (r : CycleCount) : WorkerTally :=
  { s with
    cycles := s.cycles + 1
    entriesRead := s.entriesRead + r.read
    dispatched := s.dispatched + r.dispatched
    unrouted := s.unrouted + r.unrouted }

def fail (s : WorkerTally) : WorkerTally := { s with failures := s.failures + 1 }

end WorkerTally

/-- A failure that is to be tried again. -/
structure RetryWait where
  /-- The place of the entry that failed, if an entry did. -/
  position : Option Nat
  /-- How often it has failed in a row. -/
  attempt : Nat
  /-- When cycles may run again. -/
  notBefore : Nat
deriving DecidableEq, Repr

/-- The state of a worker. -/
structure Worker where
  isPaused : Bool := false
  isFinished : Bool := false
  stats : WorkerTally := {}
  retry : Option RetryWait := none
deriving DecidableEq, Repr, Inhabited

namespace Worker

/-- The highest number of an attempt, the largest number of 32 bits; counting ends there. -/
def lastAttempt : Nat := 4294967295

/-- Moments are counted before this one.  A clock counts fewer than 2^63 seconds; the hour is
for the time that it has been running before time is taken. -/
def clockEnd : Nat := Nat.pow 2 63 * TimeUnit.second - TimeUnit.hour

/-- Which failure in a row a failure at `position` is. -/
def attemptAt (w : Worker) (position : Option Nat) : Nat :=
  match w.retry with
  | some r => if r.position = position then min (r.attempt + 1) lastAttempt else 1
  | none => 1

/-- The worker waits for a retry at `time`. -/
def isWaiting (w : Worker) (time : Nat) : Bool :=
  match w.retry with
  | some r => time < r.notBefore
  | none => false

def fail (w : Worker) : Worker := { w with stats := w.stats.fail }

variable {ι σ : Type} [DecidableEq ι]

/-- Moves the cursor to where it belongs if a failure concerns an entry. -/
def place (position : Option Nat) (target : Nat → Nat) (s : Site ι σ) : Site ι σ :=
  match position with
  | none => s
  | some p => s.seek (target p)

/-- Resets the projection that failed; whether that succeeds makes no difference. -/
def resetFailed (d : Dispatcher ι σ) (e : DispatchError) (s : Site ι σ) : Site ι σ :=
  match e.projectionName with
  | none => s
  | some name => (d.resetNamed name s).2

/-- Follows a directive about a failed cycle. -/
def obey (d : Dispatcher ι σ) (time : Nat) (e : DispatchError) (attempt : Nat) (w : Worker)
    (s : Site ι σ) : Directive → Worker × Site ι σ
  | .resume => ({ w with retry := none }, place e.globalPosition (· + 1) s)
  | .restart =>
    ({ w with retry := none }, place e.globalPosition (· + 1) (resetFailed d e s))
  | .retryAfter delay =>
    (if time + delay.nanos < clockEnd then
        { w with retry := some ⟨e.globalPosition, attempt, time + delay.nanos⟩ }
      else { w with isFinished := true },
      place e.globalPosition id s)
  | .stop => ({ w with isFinished := true }, place e.globalPosition id s)

/-- Asks the supervisor about a failed cycle and does as it is told. -/
def askSupervisor (d : Dispatcher ι σ) (decide : Supervisor) (time : Nat) (e : DispatchError)
    (w : Worker) (s : Site ι σ) : Worker × Site ι σ :=
  let attempt := w.attemptAt e.globalPosition
  let directive := decide e attempt
  obey d time e attempt w.fail (s.note (.decided .cycle time e attempt directive)) directive

/-- A tick of the first clock: a cycle, unless the worker rests. -/
def cycle (d : Dispatcher ι σ) (decide : Supervisor) (time : Nat) (w : Worker)
    (s : Site ι σ) : Worker × Site ι σ :=
  if w.isFinished || w.isPaused || w.isWaiting time then (w, s)
  else match d.runCycle s with
    | (.ok report, s') => ({ w with retry := none, stats := w.stats.record report }, s')
    | (.error e, s') => askSupervisor d decide time e w s'

/-- Follows a directive about a failure with something overdue. -/
def obeyRecheck (d : Dispatcher ι σ) (e : DispatchError) (w : Worker) (s : Site ι σ) :
    Directive → Worker × Site ι σ
  | .restart => (w, resetFailed d e s)
  | .stop => ({ w with isFinished := true }, s)
  | .resume | .retryAfter _ => (w, s)

/-- A tick of the second clock: looks after what is overdue, unless the worker rests. -/
def recheck (d : Dispatcher ι σ) (decide : Supervisor) (time : Nat) (w : Worker)
    (s : Site ι σ) : Worker × Site ι σ :=
  if w.isFinished || w.isPaused then (w, s)
  else match d.redispatchOverdue s with
    | (.ok n, s') =>
      ({ w with stats := { w.stats with redispatched := w.stats.redispatched + n } }, s')
    | (.error e, s') =>
      let directive := decide e 1
      obeyRecheck d e w.fail (s'.note (.decided .recheck time e 1 directive)) directive

/-- A tick of one of the clocks. -/
def tick (d : Dispatcher ι σ) (decide : Supervisor) (round : Round) (time : Nat) (w : Worker)
    (s : Site ι σ) : Worker × Site ι σ :=
  match round with
  | .cycle => w.cycle d decide time s
  | .recheck => w.recheck d decide time s

end Worker

end EventJournal
