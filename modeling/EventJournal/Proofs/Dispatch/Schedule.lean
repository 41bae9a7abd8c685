/-
EventJournal/Proofs/Dispatch/Schedule.lean

Delivery does not depend on the schedule.

A worker is left alone if nothing happens but its own cycles; it may be paused and woken
up, and the clocks may show anything.  All it does then is to take entries one at a time,
in turns that know neither batches nor times (`keepsPace_run`).  It gets through if it is
told to stop, or comes to a cycle that finds nothing to read; then there is no further
turn.  A worker that ends because a wait goes beyond the end of its clock has not got
through.

Main result: two workers that begin alike and both get through do the same and leave the
same behind, whatever their batches and schedules, since both end where the turns end
(`sameDelivery_run`).  Supervisors and projections are any.  If both journals give the same
stamps, nothing has to be masked, and every projection respects that; if they give
different ones, the projections have to respect a mask that hides the difference.
-/
import EventJournal.Proofs.Dispatch.Order
import EventJournal.Proofs.Dispatch.Pace

namespace EventJournal

variable {ι σ : Type} {mask : Mask}

theorem Mask.stops_occurrence {o : Occurrence ι} : (mask.occurrence o).Stops ↔ o.Stops := by
  cases o with
  | decided round time e attempt directive =>
    cases round with
    | cycle => cases directive <;> exact Iff.rfl
    | recheck => exact Iff.rfl
  | _ => exact Iff.rfl

/-- The worker is left alone: it ticks to read on, it is paused or woken up, or time passes. -/
def Move.LeavesAlone : Move ι σ → Prop
  | .tick .cycle _ | .setPaused _ | .setClock _ => True
  | _ => False

namespace Watch

variable [DecidableEq ι]

/-! ### Runs as turns -/

section Turns

variable [Setoid σ] {d : Dispatcher ι σ} {w : Watch ι σ} {g : Progress ι σ}

/-- A move of a worker that is left alone is some turns. -/
theorem keepsPace_make (hd : w.dispatcher.Alike mask d)
    (hbatch : 1 ≤ w.dispatcher.config.batchSize) (h : w.worker.KeepsPace mask w.site g)
    {m : Move ι σ} (hm : m.LeavesAlone) :
    (w.make m).dispatcher = w.dispatcher ∧ (w.make m).supervisor = w.supervisor ∧
      ∃ g', StateTransition.Reaches (d.turn w.supervisor) g g' ∧
        (w.make m).worker.KeepsPace mask (w.make m).site g' := by
  cases m with
  | tick round time =>
    cases round with
    | cycle => exact ⟨rfl, rfl, Worker.keepsPace_cycle hd hbatch h time⟩
    | recheck => cases hm
  | setPaused isPaused =>
    exact ⟨rfl, rfl, g, .refl, h.mirrors, h.cursor, h.going, h.counts⟩
  | setClock now =>
    -- sites are alike whatever their clocks show
    refine ⟨rfl, rfl, g, .refl, ?_, h.cursor, h.going, h.counts⟩
    exact ⟨{ h.mirrors.alike with }, h.mirrors.indexed, h.mirrors.outages⟩
  | _ => cases hm

/-- A worker that is left alone takes entries in turns, by induction on the moves. -/
theorem keepsPace_run (hd : w.dispatcher.Alike mask d)
    (hbatch : 1 ≤ w.dispatcher.config.batchSize) (h : w.worker.KeepsPace mask w.site g)
    {ms : List (Move ι σ)} (hms : ∀ m ∈ ms, m.LeavesAlone) :
    (w.run ms).dispatcher = w.dispatcher ∧ (w.run ms).supervisor = w.supervisor ∧
      ∃ g', StateTransition.Reaches (d.turn w.supervisor) g g' ∧
        (w.run ms).worker.KeepsPace mask (w.run ms).site g' := by
  induction ms generalizing w g with
  | nil => exact ⟨rfl, rfl, g, .refl, h⟩
  | cons m rest ih =>
    obtain ⟨hdispatcher, hsupervisor, g₁, hreaches, hpace⟩ :=
      keepsPace_make hd hbatch h (hms m List.mem_cons_self)
    obtain ⟨hdispatcher', hsupervisor', g', hreaches', hpace'⟩ :=
      ih (by rwa [hdispatcher]) (by rwa [hdispatcher]) hpace
        fun m' hm' => hms m' (List.mem_cons_of_mem _ hm')
    rw [hsupervisor] at hsupervisor' hreaches'
    exact ⟨hdispatcher'.trans hdispatcher, hsupervisor', g', hreaches.trans hreaches', hpace'⟩

end Turns

/-! ### Getting through -/

/-- The worker is told to stop, or it comes to a cycle at which it does not rest and finds
nothing to read. -/
def GetsThrough (w : Watch ι σ) (ms : List (Move ι σ)) : Prop :=
  (∃ o ∈ w.done ms, o.Stops) ∨
    ∃ before time after, ms = before ++ .tick .cycle time :: after ∧
      ¬ (w.run before).worker.Rests time ∧
      (w.run before).site.journal.readFrom (w.run before).site.cursor
        w.dispatcher.config.batchSize = []

/-- The worker is not in the middle of a retry, its batches are not empty, and its journal has a
history and can be read. -/
structure IsReady (w : Watch ι σ) : Prop where
  batchSize : 1 ≤ w.dispatcher.config.batchSize
  retry : w.worker.retry = none
  journal : w.site.journal.Reachable
  outages : w.site.outages = []

variable [Setoid σ] {d : Dispatcher ι σ} {w : Watch ι σ} {ms : List (Move ι σ)}
  {t : Site ι σ} {g : Progress ι σ}

/-- The word to stop is among what was done in the turns if it is among what the worker did. -/
theorem isStopped_of_done (ht : w.site.Alike mask t)
    (hreaches : StateTransition.Reaches (d.turn w.supervisor) { site := t } g)
    (hpace : (w.run ms).worker.KeepsPace mask (w.run ms).site g) {o : Occurrence ι}
    (ho : o ∈ w.done ms) (hstops : o.Stops) : g.isStopped := by
  obtain ⟨T, hT, hlast⟩ := Dispatcher.isStopped_of_reaches hreaches
  -- worker and turns began alike and are alike, so they have added the same
  have hdone : (w.done ms).map mask.occurrence = T.map mask.occurrence := by
    have htrace := hpace.mirrors.alike.trace
    rw [(onward_run w ms).trace, hT, List.map_append, List.map_append, ht.trace] at htrace
    exact List.append_cancel_left htrace
  have hmem : mask.occurrence o ∈ T.map mask.occurrence := by
    rw [← hdone]
    exact List.mem_map_of_mem ho
  obtain ⟨o', ho', heq⟩ := List.mem_map.1 hmem
  apply hlast o' ho'
  rwa [← Mask.stops_occurrence, heq, Mask.stops_occurrence]

/-- If a batch is empty then there is no further turn. -/
theorem turn_eq_none_of_readFrom_eq_nil (hpace : w.worker.KeepsPace mask w.site g)
    {most : Nat} (hmost : 1 ≤ most) (hnil : w.site.journal.readFrom w.site.cursor most = [])
    (decide : Supervisor) : d.turn decide g = none :=
  Dispatcher.turn_of_length_le (hpace.length_le_of_readFrom_eq_nil hmost hnil)

/-- A worker that gets through ends where the turns end. -/
theorem exists_eval_turn (hw : w.IsReady) (hd : w.dispatcher.Alike mask d)
    (hms : ∀ m ∈ ms, m.LeavesAlone) (hend : w.GetsThrough ms) (ht : w.site.Alike mask t)
    (hcur : w.site.cursor = t.cursor) :
    ∃ g ∈ StateTransition.eval (d.turn w.supervisor) { site := t },
      (w.run ms).worker.KeepsPace mask (w.run ms).site g := by
  have hstart : w.worker.KeepsPace mask w.site { site := t } :=
    .of_retry_eq_none ⟨ht, hw.journal.indexed, hw.outages⟩ hcur rfl hw.retry rfl
  rcases hend with ⟨o, ho, hstops⟩ | ⟨before, time, after, rfl, -, hnil⟩
  · obtain ⟨-, -, g, hreaches, hpace⟩ := keepsPace_run hd hw.batchSize hstart hms
    -- what told the worker to stop has told the turns, too
    have hstopped := isStopped_of_done ht hreaches hpace ho hstops
    exact ⟨g, StateTransition.mem_eval.2 ⟨hreaches, Dispatcher.turn_of_isStopped hstopped⟩, hpace⟩
  · have hbefore : ∀ m ∈ before, m.LeavesAlone := fun m hm => hms m (by simp [hm])
    have hafter : ∀ m ∈ .tick .cycle time :: after, m.LeavesAlone :=
      fun m hm => hms m (List.mem_append_right _ hm)
    obtain ⟨hdispatcher, hsupervisor, g, hreaches, hpace⟩ :=
      keepsPace_run hd hw.batchSize hstart hbefore
    have hbatch := hw.batchSize
    have hhalted : d.turn w.supervisor g = none :=
      turn_eq_none_of_readFrom_eq_nil hpace hbatch hnil _
    have heval := StateTransition.mem_eval.2 ⟨hreaches, hhalted⟩
    -- the moves from that cycle on are turns too, and there is none
    rw [← hdispatcher] at hd hbatch
    obtain ⟨-, -, g', hreaches', hpace'⟩ := keepsPace_run hd hbatch hpace hafter
    rw [hsupervisor] at hreaches'
    rw [(StateTransition.eval_maximal heval).1 hreaches'] at hpace'
    rw [run_append]
    exact ⟨g, heval, hpace'⟩

/-! ### Two schedules -/

/-- The workers begin alike behind a mask that their projections respect: with the same
supervisor and projections, at sites that look the same, and with the same cursor. -/
structure Alike (mask : Mask) (w w' : Watch ι σ) : Prop where
  dispatcher : w.dispatcher.Alike mask w'.dispatcher
  supervisor : w.supervisor = w'.supervisor
  site : w.site.Alike mask w'.site
  cursor : w.site.cursor = w'.site.cursor

/-- Two runs do the same and leave the same behind, apart from times and what the mask hides. -/
structure SameDelivery (mask : Mask) (w : Watch ι σ) (ms : List (Move ι σ)) (w' : Watch ι σ)
    (ms' : List (Move ι σ)) : Prop where
  /-- Invocations with their outcomes, failures with their attempts, directives and resets are
  the same, in the same order. -/
  done : (w.done ms).map mask.occurrence = (w'.done ms').map mask.occurrence
  journal : (w.run ms).site.journal.Alike mask (w'.run ms').site.journal
  cursor : (w.run ms).site.cursor = (w'.run ms').site.cursor
  confirmed : (w.run ms).site.confirmations.confirmed = (w'.run ms').site.confirmations.confirmed
  /-- The same is pending, and it was handed out as often. -/
  pending : ∀ id, (w.run ms).site.confirmations.attempts? id
    = (w'.run ms').site.confirmations.attempts? id
  states : ∀ i, w.dispatcher.stateOf (w.run ms).site i ≈ w'.dispatcher.stateOf (w'.run ms').site i

/-- **Delivery does not depend on batch sizes and schedules**, as long as both workers get
through. -/
theorem sameDelivery_run {w' : Watch ι σ} {ms' : List (Move ι σ)} (h : w.Alike mask w')
    (hw : w.IsReady) (hw' : w'.IsReady) (hms : ∀ m ∈ ms, m.LeavesAlone)
    (hms' : ∀ m ∈ ms', m.LeavesAlone) (hend : w.GetsThrough ms) (hend' : w'.GetsThrough ms') :
    SameDelivery mask w ms w' ms' := by
  -- both workers are held against the turns that the first dispatcher takes at the first site
  have hd : w.dispatcher.Alike mask w.dispatcher := ⟨rfl, h.dispatcher.respects⟩
  have hd' : w'.dispatcher.Alike mask w.dispatcher := h.dispatcher.symm
  obtain ⟨g, hg, hpace⟩ := exists_eval_turn hw hd hms hend (.refl w.site) rfl
  obtain ⟨g', hg', hpace'⟩ := exists_eval_turn hw' hd' hms' hend' h.site.symm h.cursor.symm
  rw [← h.supervisor] at hg'
  -- turns are a function, so both have come to the same end
  cases Part.mem_unique hg hg'
  have hsite : (w.run ms).site.Alike mask (w'.run ms').site :=
    hpace.mirrors.alike.trans hpace'.mirrors.alike.symm
  refine ⟨?_, hsite.journal, hpace.cursor.trans hpace'.cursor.symm,
    hsite.confirmations.confirmed, hsite.confirmations.attempts?, h.dispatcher.stateOf hsite⟩
  -- the traces agree from the beginning, and so do the parts that the runs have added
  have htrace := hsite.trace
  rw [(onward_run w ms).trace, (onward_run w' ms').trace, List.map_append, List.map_append,
    h.site.trace] at htrace
  exact List.append_cancel_left htrace

/-- Two projections, of which the first appends an entry and is busy twice, and the second fails
for good once; there are two entries to begin with, and they are handed to both. -/
def relay (stamp : Stamp) (batchSize : Nat) : Watch Bool Script.State :=
  let projections (isFirst : Bool) := Script.projection
    (if isFirst then
      { name := "first"
        actions := [.append ⟨⟨"t"⟩, .any, [⟨"b", 1, .null⟩], .none, none⟩,
          .fail (.storage "busy"), .fail (.storage "busy")] }
    else { name := "second", actions := [.silent, .fail (.corruption "odd")] })
  let table : DecisionTable := ⟨DecisionTable.usual, .fixed 3 (.ofMillis 5)⟩
  { Watch.start (fun _ => stamp) projections table.supervisor with
    dispatcher := ⟨{ batchSize }, projections⟩ }.run
      [.register ⟨true, ["*"], "all", Route.star_ne_nil⟩,
        .register ⟨false, ["*"], "all", Route.star_ne_nil⟩,
        .operate (.append ⟨⟨"s"⟩, .any, [⟨"a", 1, .null⟩, ⟨"a", 1, .null⟩], .none, none⟩)]

/-- The worker gets through with one tick at which it waits. -/
def steady : List (Move Bool Script.State) :=
  [.tick .cycle 0, .tick .cycle 1, .tick .cycle 2, .tick .cycle 6000000, .tick .cycle 12000000,
    .tick .cycle 13000000, .tick .cycle 14000000]

/-- The worker gets through with pauses and at other times. -/
def fitful : List (Move Bool Script.State) :=
  [.setPaused true, .tick .cycle 0, .setPaused false, .setClock 7, .tick .cycle 3,
    .tick .cycle 7000000, .setPaused true, .tick .cycle 13000000, .setPaused false,
    .tick .cycle 14000000, .tick .cycle 15000000, .tick .cycle 16000000]

/-- Workers with other stamps and batch sizes begin alike. -/
theorem alike_relay (stamp stamp' : Stamp) (m n : Nat) :
    (relay stamp m).Alike .blind (relay stamp' n) where
  dispatcher := ⟨rfl, fun _ => Script.respects _ _⟩
  supervisor := rfl
  site := ⟨⟨rfl, rfl, fun _ => rfl⟩, rfl, .refl _, fun _ _ => Setoid.refl _, rfl⟩
  cursor := rfl

theorem isReady_relay (stamp : Stamp) {batchSize : Nat} (h : 1 ≤ batchSize) :
    (relay stamp batchSize).IsReady where
  batchSize := h
  retry := rfl
  journal := ⟨fun _ => stamp,
    [.append ⟨⟨"s"⟩, .any, [⟨"a", 1, .null⟩, ⟨"a", 1, .null⟩], .none, none⟩], rfl⟩
  outages := rfl

/-- A stamp other than the usual one. -/
def otherStamp : Stamp := ⟨⟨List.replicate 32 (Fin.last 15), List.length_replicate⟩, default⟩

/-- One by one or in batches, the second entry is tried three times. -/
theorem sameDelivery_relay :
    (relay default 1).Alike .blind (relay otherStamp 100) ∧
      (relay default 1).IsReady ∧ (relay otherStamp 100).IsReady ∧
      (∀ m ∈ steady, m.LeavesAlone) ∧ (∀ m ∈ fitful, m.LeavesAlone) ∧
      (relay default 1).GetsThrough steady ∧ (relay otherStamp 100).GetsThrough fitful ∧
      SameDelivery .blind (relay default 1) steady (relay otherStamp 100) fitful ∧
      ((relay default 1).handed steady).map Handing.directive
        = [none, some (.retryAfter (.ofMillis 5)), some (.retryAfter (.ofMillis 5)),
          some .restart, none] := by
  have halike := alike_relay default otherStamp 1 100
  have hready := isReady_relay default (Nat.le_refl 1)
  have hready' : (relay otherStamp 100).IsReady := isReady_relay otherStamp (by decide)
  have hsteady : ∀ m ∈ steady, m.LeavesAlone := by simp [steady, Move.LeavesAlone]
  have hfitful : ∀ m ∈ fitful, m.LeavesAlone := by simp [fitful, Move.LeavesAlone]
  have hend : (relay default 1).GetsThrough steady := by
    refine Or.inr ⟨steady.take 6, 14000000, [], rfl, ?_, rfl⟩
    exact Bool.false_ne_true
  have hend' : (relay otherStamp 100).GetsThrough fitful := by
    refine Or.inr ⟨fitful.take 11, 16000000, [], rfl, ?_, rfl⟩
    exact Bool.false_ne_true
  refine ⟨halike, hready, hready', hsteady, hfitful, hend, hend', ?_, ?_⟩
  · exact sameDelivery_run halike hready hready' hsteady hfitful hend hend'
  · rfl

end Watch

end EventJournal
