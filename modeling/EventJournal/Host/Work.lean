/-
EventJournal/Host/Work.lean

The passing of time.  Time stands still except in `sleep`, and no work takes any.  A
worker ticks from the moment it is put to work; what is due at once is done at once.
During a sleep the clock moves on from one millisecond with ticks to the next.  Workers
that tick together do so in the order in which they were put to work, each with its
cycles first.  Ticks of a worker that is paused or finished change nothing, so the clock
passes over them.
-/
import EventJournal.Host.Basic

namespace EventJournal

/-- A tick that is due. -/
structure Due where
  worker : String
  round : Round
deriving DecidableEq, Repr

namespace Post

/-- The ticks of this post change nothing. -/
def isResting (p : Post) : Bool := p.worker.isFinished || p.worker.isPaused

/-- The rhythms of a post that may change something. -/
def rhythms (p : Post) : List (Rhythm × Round) :=
  if p.isResting then []
  else (p.cycles, .cycle) :: (p.rechecks.map fun r => (r, Round.recheck)).toList

/-- The next millisecond with a tick. -/
def wakeAfter? (p : Post) (ms : Nat) : Option Nat :=
  (p.rhythms.map fun r => r.1.wakeAfter ms).min?

/-- The ticks of the millisecond `ms` for a worker called `name`. -/
def due (p : Post) (name : String) (ms : Nat) : List Due :=
  p.rhythms.flatMap fun r => List.replicate (r.1.ticksAt ms) ⟨name, r.2⟩

end Post

namespace Host

variable {ι σ : Type} [DecidableEq ι]

/-! ### Ticks -/

/-- Lets a worker tick, if it is still there. -/
def tick (h : Host ι σ) (d : Due) : Host ι σ :=
  match h.workers.get? d.worker with
  | none => h
  | some p =>
    match h.atStation p.station fun b s =>
        p.worker.tick b.dispatcher p.supervisor d.round h.time s with
    | none => h
    | some (worker, h') => { h' with workers := h'.workers.insert d.worker { p with worker } }

/-- Moves the clock to `ms` and lets all workers tick that are woken there. -/
def wake (h : Host ι σ) (ms : Nat) : Host ι σ :=
  (h.workers.rows.flatMap fun row => row.2.due row.1 ms).foldl tick { h with clock := ms }

/-- The next millisecond with a tick. -/
def nextWake? (h : Host ι σ) : Option Nat :=
  (h.workers.rows.filterMap fun row => row.2.wakeAfter? h.clock).min?

theorem clock_tick (h : Host ι σ) (d : Due) : (h.tick d).clock = h.clock := by
  unfold tick
  split
  · rfl
  · unfold atStation
    split
    · rfl
    · rename_i hs
      obtain ⟨b, _, hb⟩ := Option.map_eq_some_iff.1 hs
      cases hb
      rfl

theorem clock_foldl_tick (ds : List Due) (h : Host ι σ) : (ds.foldl tick h).clock = h.clock := by
  induction ds generalizing h with
  | nil => rfl
  | cons d rest ih => rw [List.foldl_cons, ih, clock_tick]

theorem clock_wake (h : Host ι σ) (ms : Nat) : (h.wake ms).clock = ms := clock_foldl_tick ..

/-! ### Time -/

/-- Lets time pass up to the millisecond `stop`, while all workers tick. -/
def sleepUntil (stop : Nat) (h : Host ι σ) : Host ι σ :=
  match h.nextWake? with
  | none => { h with clock := stop }
  | some ms =>
    if h.clock < ms ∧ ms ≤ stop then sleepUntil stop (h.wake ms) else { h with clock := stop }
termination_by stop - h.clock
decreasing_by
  rw [clock_wake]
  omega

/-- Lets some milliseconds pass, while all workers tick.  A sleep is timed too, so it ends
after the longest run of a timer. -/
def sleep (h : Host ι σ) (millis : Nat) : Host ι σ :=
  h.sleepUntil (h.clock + min millis (Rhythm.longest / TimeUnit.millisecond))

/-! ### Workers -/

/-- The ticks at which a worker of some settings does its work from now on. -/
def post (h : Host ι σ) (station : Nat) (supervisor : Supervisor) (c : DispatchConfig) : Post where
  worker := {}
  station := station
  supervisor := supervisor
  cycles := .every h.time c.interval
  rechecks := c.confirmationCheckInterval.map (Rhythm.every h.time)

/-- Puts a worker to work for a dispatcher and lets it do what is due; answers whether there
is such a dispatcher. -/
def startWorker (h : Host ι σ) (worker dispatcher : String) (supervisor : Supervisor) :
    Option (Host ι σ) := do
  let n ← h.dispatchers.get? dispatcher
  let b ← h.stations[n]?
  let p := h.post n supervisor b.dispatcher.config
  let h := { h with workers := (h.workers.erase worker).insert worker p }
  let h := h.tick ⟨worker, .cycle⟩
  pure (if p.rechecks.isSome then h.tick ⟨worker, .recheck⟩ else h)

/-- Pauses a worker, or lets it go on, if it is there. -/
def setPaused (h : Host ι σ) (worker : String) (isPaused : Bool) : Host ι σ :=
  match h.workers.get? worker with
  | none => h
  | some p =>
    { h with
      workers := h.workers.insert worker { p with worker := { p.worker with isPaused } } }

/-- Sends a worker away, if it is there. -/
def dismiss (h : Host ι σ) (worker : String) : Host ι σ :=
  { h with workers := h.workers.erase worker }

end Host

end EventJournal
