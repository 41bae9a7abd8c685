/-
EventJournal/Proofs/Dispatch/Watch.lean

Runs of a worker in a busy world.

A watch is a worker with the dispatcher that it works for, its supervisor and its site.
A run is a list of moves, in any order: the worker ticks, is paused or relieved by a new
one; others change the journal and the routes, set the clock, and use the dispatcher
themselves.  What a run has done is read off the trace of the site (`Watch.done`).

Main results: every run keeps what `Site.Onward` says (`onward_run`).  A cycle does what
`Worker.Cycled` lists (`cycled_make`), and a move that is no cycle and leaves the reader
alone is work beside reading on (`aside_make`).
-/
import EventJournal.Proofs.Dispatch.Cycle

namespace EventJournal

variable {ι σ : Type}

/-- A worker at work. -/
structure Watch (ι σ : Type) where
  dispatcher : Dispatcher ι σ
  supervisor : Supervisor
  worker : Worker
  site : Site ι σ

/-- The watch at the beginning, with the usual settings and nothing in the journal. -/
def Watch.start (stamps : Nat → Stamp) (projections : ι → Projection σ)
    (supervisor : Supervisor) : Watch ι σ where
  dispatcher := ⟨{}, projections⟩
  supervisor := supervisor
  worker := {}
  site :=
    { journal := .empty stamps
      cursor := 0
      outages := []
      router := .empty
      confirmations := .empty
      memory := ∅
      now := 0
      trace := [] }

/-- One thing that happens. -/
inductive Move (ι σ : Type) where
  /-- The worker ticks. -/
  | tick (round : Round) (time : Nat)
  | setPaused (isPaused : Bool)
  /-- A new worker takes over the site. -/
  | relieve (dispatcher : Dispatcher ι σ) (supervisor : Supervisor)
  /-- Somebody changes the journal. -/
  | operate (op : Operation)
  | register (route : Route ι)
  | clear
  /-- A change of the routes breaks off, with the router in whatever state it left behind. -/
  | breakOff (left : Router ι)
  /-- The clock of the confirmations is set. -/
  | setClock (now : Int)
  /-- It is settled how the next attempts at reading end. -/
  | setOutages (outages : List (Option JournalError))
  /-- Somebody else uses the dispatcher. -/
  | dispatch (p : Projectable)
  | redispatch (p : Projectable)
  | redispatchOverdue
  | reset (name : String)
  /-- Somebody else reads on. -/
  | runCycle
  /-- Somebody moves the cursor. -/
  | seek (position : Nat)

/-- Somebody other than the worker reads on or moves the cursor. -/
def Move.TakesReader : Move ι σ → Prop
  | .runCycle | .seek _ => True
  | _ => False

/-- A change of the routes breaks off. -/
def Move.BreaksOff : Move ι σ → Prop
  | .breakOff _ => True
  | _ => False

/-- The worker tries to read on. -/
def Move.IsCycle : Move ι σ → Prop
  | .tick .cycle _ => True
  | _ => False

theorem Move.IsCycle.eq_tick {m : Move ι σ} (h : m.IsCycle) : ∃ time, m = .tick .cycle time := by
  cases m with
  | tick round time =>
    cases round with
    | cycle => exact ⟨time, rfl⟩
    | recheck => cases h
  | _ => cases h

namespace Watch

variable [DecidableEq ι]

/-- The watch after a move. -/
def make (w : Watch ι σ) : Move ι σ → Watch ι σ
  | .tick round time =>
    let (worker, site) := w.worker.tick w.dispatcher w.supervisor round time w.site
    { w with worker, site }
  | .setPaused isPaused => { w with worker := { w.worker with isPaused } }
  | .relieve dispatcher supervisor => { w with dispatcher, supervisor, worker := {} }
  | .operate op => { w with site := { w.site with journal := (op.perform w.site.journal).2 } }
  | .register route =>
    { w with site := { w.site with router := (w.site.router.register route).2 } }
  | .clear => { w with site := { w.site with router := w.site.router.clear.2 } }
  | .breakOff left => { w with site := { w.site with router := left.poison } }
  | .setClock now => { w with site := { w.site with now } }
  | .setOutages outages => { w with site := { w.site with outages } }
  | .dispatch p => { w with site := (w.dispatcher.dispatch p w.site).2 }
  | .redispatch p => { w with site := (w.dispatcher.redispatch p w.site).2 }
  | .redispatchOverdue => { w with site := (w.dispatcher.redispatchOverdue w.site).2 }
  | .reset name => { w with site := (w.dispatcher.resetNamed name w.site).2 }
  | .runCycle => { w with site := (w.dispatcher.runCycle w.site).2 }
  | .seek position => { w with site := w.site.seek position }

/-- The watch after some moves, one after the other. -/
def run (w : Watch ι σ) (ms : List (Move ι σ)) : Watch ι σ := ms.foldl make w

/-- What was done in a run. -/
def done (w : Watch ι σ) (ms : List (Move ι σ)) : List (Occurrence ι) :=
  (w.run ms).site.trace.drop w.site.trace.length

@[simp] theorem run_nil (w : Watch ι σ) : w.run [] = w := rfl

@[simp] theorem run_cons (w : Watch ι σ) (m : Move ι σ) (ms : List (Move ι σ)) :
    w.run (m :: ms) = (w.make m).run ms := rfl

theorem run_append (w : Watch ι σ) (ms ms' : List (Move ι σ)) :
    w.run (ms ++ ms') = (w.run ms).run ms' := List.foldl_append

/-! ### One move -/

/-- A move that is not about reading on is work beside it. -/
theorem aside_make (w : Watch ι σ) {m : Move ι σ} (hc : ¬ m.IsCycle) (hr : ¬ m.TakesReader) :
    ∃ T, w.site.Aside (w.make m).site T := by
  -- what leaves confirmations, trace and cursor alone and at most adds to the journal
  have hsame {s : Site ι σ} (hj : w.site.journal.Extends s.journal)
      (hconf : s.confirmations = w.site.confirmations) (ht : s.trace = w.site.trace)
      (hcur : s.cursor = w.site.cursor) : ∃ T, w.site.Aside s T :=
    ⟨[], .of_eq hj hconf ht, hcur, by simp⟩
  cases m with
  | tick round time =>
    cases round with
    | cycle => exact absurd trivial hc
    | recheck => exact Worker.aside_recheck ..
  | setPaused isPaused => exact hsame (.refl _) rfl rfl rfl
  | relieve dispatcher supervisor => exact hsame (.refl _) rfl rfl rfl
  | operate op => exact hsame (Journal.extends_perform ..) rfl rfl rfl
  | register route => exact hsame (.refl _) rfl rfl rfl
  | clear => exact hsame (.refl _) rfl rfl rfl
  | breakOff left => exact hsame (.refl _) rfl rfl rfl
  | setClock now => exact hsame (.refl _) rfl rfl rfl
  | setOutages outages => exact hsame (.refl _) rfl rfl rfl
  | dispatch p => exact Dispatcher.aside_of_handles (w.dispatcher.handles_dispatch p w.site)
  | redispatch p => exact Dispatcher.aside_of_handles (w.dispatcher.handles_redispatch p w.site)
  | redispatchOverdue =>
    exact Dispatcher.aside_of_handles (w.dispatcher.handles_redispatchOverdue w.site)
  | reset name => exact Dispatcher.aside_of_handles (w.dispatcher.handles_resetNamed name w.site)
  | runCycle => exact absurd trivial hr
  | seek position => exact absurd trivial hr

theorem onward_make (w : Watch ι σ) (m : Move ι σ) : ∃ T, w.site.Onward (w.make m).site T := by
  by_cases hc : m.IsCycle
  · obtain ⟨time, rfl⟩ := hc.eq_tick
    obtain ⟨T, hT, -⟩ := Worker.cycled_cycle w.dispatcher w.supervisor time w.worker w.site
    exact ⟨T, hT⟩
  · by_cases hr : m.TakesReader
    · cases m with
      | runCycle => exact Dispatcher.onward_runCycle ..
      | seek position => exact ⟨[], .seek w.site position⟩
      | _ => cases hr
    · -- everything else is work beside reading on
      obtain ⟨T, hT⟩ := aside_make w hc hr
      exact ⟨T, hT.toOnward⟩

/-- Only a change that breaks off poisons the routes. -/
theorem isPoisoned_make (w : Watch ι σ) {m : Move ι σ} (hm : ¬ m.BreaksOff)
    (hsound : w.site.router.isPoisoned = false) : (w.make m).site.router.isPoisoned = false := by
  cases m with
  | tick round time => exact (Worker.isPoisoned_tick ..).trans hsound
  | register route =>
    show (w.site.router.register route).2.isPoisoned = false
    rw [Router.register_of_sound hsound]
  | clear =>
    show w.site.router.clear.2.isPoisoned = false
    rw [Router.clear_of_sound hsound]
    rfl
  | breakOff left => exact absurd trivial hm
  | dispatch p =>
    -- whoever hands out only asks the routes
    exact (Dispatcher.isPoisoned_of_handles (w.dispatcher.handles_dispatch p w.site)).trans hsound
  | redispatch p =>
    exact (Dispatcher.isPoisoned_of_handles (w.dispatcher.handles_redispatch p w.site)).trans hsound
  | redispatchOverdue =>
    exact (Dispatcher.isPoisoned_of_handles
      (w.dispatcher.handles_redispatchOverdue w.site)).trans hsound
  | reset name =>
    exact (Dispatcher.isPoisoned_of_handles
      (w.dispatcher.handles_resetNamed name w.site)).trans hsound
  | runCycle => exact (Dispatcher.isPoisoned_runCycle ..).trans hsound
  | _ => exact hsound

/-! ### Runs -/

/-- What was done in a run is what leads from its first site to its last. -/
theorem done_eq {w : Watch ι σ} {ms : List (Move ι σ)} {T : List (Occurrence ι)}
    (hT : w.site.Onward (w.run ms).site T) : w.done ms = T := by
  rw [done, hT.trace, List.drop_left]

/-- What every step keeps is kept by runs, by induction on the moves. -/
theorem onward_run (w : Watch ι σ) (ms : List (Move ι σ)) :
    w.site.Onward (w.run ms).site (w.done ms) := by
  have hrun : ∃ T, w.site.Onward (w.run ms).site T := by
    induction ms generalizing w with
    | nil => exact ⟨[], .refl w.site⟩
    | cons m rest ih =>
      obtain ⟨T, hT⟩ := onward_make w m
      obtain ⟨U, hU⟩ := ih (w.make m)
      exact ⟨T ++ U, hT.trans hU⟩
  obtain ⟨T, hT⟩ := hrun
  rwa [done_eq hT]

/-- What was done in two runs is what was done in the first and then in the second. -/
theorem done_append (w : Watch ι σ) (ms ms' : List (Move ι σ)) :
    w.done (ms ++ ms') = w.done ms ++ (w.run ms).done ms' := by
  have hboth := (onward_run w ms).trans (onward_run (w.run ms) ms')
  rw [done, run_append, hboth.trace, List.drop_left]

/-- What is done at a cycle is one of the things that a cycle can do. -/
theorem cycled_make (w : Watch ι σ) (time : Nat) :
    Worker.Cycled w.dispatcher time w.worker w.site (w.make (.tick .cycle time)).worker
      (w.make (.tick .cycle time)).site (w.done [.tick .cycle time]) := by
  obtain ⟨T, hT, hcycled⟩ := Worker.cycled_cycle w.dispatcher w.supervisor time w.worker w.site
  have hdone : w.done [.tick .cycle time] = T := done_eq hT
  rw [hdone]
  exact hcycled

end Watch

end EventJournal
