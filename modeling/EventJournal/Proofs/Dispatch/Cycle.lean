/-
EventJournal/Proofs/Dispatch/Cycle.lean

What one cycle can do, said once for all that is proved of runs.

A trace is read for the entries that were handed out in their turn: `handings` lists them
with what came of each, and with the directive where a dispatch failed.  A cycle reads a
batch before it dispatches any of it, so between the two the cursor is ahead of the
entries; the cases below say where it stands once the cycle is over.

Main results: `dispatchEach_cases` for the entries of a batch, and `cycled_cycle`, by which
a cycle of a worker rests, handles its whole batch, fails to read, or fails at one entry
of the batch after it has handled those before it (`Worker.Cycled`).
-/
import EventJournal.Dispatch.Worker
import EventJournal.Proofs.Dispatch.Handling

namespace EventJournal

variable {ι σ : Type}

/-! ### Entries handed out in their turn -/

/-- An entry that a cycle handed out, and what came of it. -/
structure Handing where
  projectable : Projectable
  outcome : Except DispatchError Nat
  /-- What the supervisor told the worker to do, if the dispatch failed. -/
  directive : Option Directive

/-- The directive about a cycle with which a stretch of a trace begins. -/
def answer? : List (Occurrence ι) → Option Directive
  | .decided .cycle _ _ _ directive :: _ => some directive
  | _ => none

/-- The entries that were handed out in a stretch of a trace. -/
def handings : List (Occurrence ι) → List Handing
  | [] => []
  | .dispatched p (.ok n) :: rest => ⟨p, .ok n, none⟩ :: handings rest
  | .dispatched p (.error e) :: rest => ⟨p, .error e, answer? rest⟩ :: handings rest
  | _ :: rest => handings rest

/-- The stretch does not break off between a failure and the decision about it. -/
def Settled (T : List (Occurrence ι)) : Prop := ∀ p e, T.getLast? ≠ some (.dispatched p (.error e))

theorem handings_cons_of_aside {o : Occurrence ι} (h : o.IsAside) (T : List (Occurrence ι)) :
    handings (o :: T) = handings T := by
  cases o with
  | dispatched p outcome => cases h
  | _ => rfl

/-- Work beside reading on hands out nothing in turn. -/
theorem handings_of_aside {T : List (Occurrence ι)} (h : ∀ o ∈ T, o.IsAside) :
    handings T = [] := by
  induction T with
  | nil => rfl
  | cons o rest ih =>
    rw [handings_cons_of_aside (h o List.mem_cons_self)]
    exact ih fun o' ho' => h o' (List.mem_cons_of_mem _ ho')

theorem handings_decided {U : List (Occurrence ι)} (hU : ∀ o ∈ U, o.IsAside) (round : Round)
    (time : Nat) (e : DispatchError) (attempt : Nat) (directive : Directive) :
    handings (.decided round time e attempt directive :: U) = [] := by
  show handings U = []
  exact handings_of_aside hU

/-- Such work leaves no failure open either. -/
theorem settled_of_aside {T : List (Occurrence ι)} (h : ∀ o ∈ T, o.IsAside) : Settled T :=
  fun _ _ hlast => h _ (List.mem_of_getLast? hlast)

/-- Settled stretches make a settled stretch. -/
theorem settled_append {T U : List (Occurrence ι)} (hT : Settled T) (hU : Settled U) :
    Settled (T ++ U) := by
  intro p e hlast
  rw [List.getLast?_append] at hlast
  -- the last of both is the last of `U`, unless `U` is empty
  cases hU' : U.getLast? with
  | none =>
    rw [hU', Option.none_or] at hlast
    exact hT p e hlast
  | some o =>
    rw [hU', Option.some_or] at hlast
    exact hU p e (hU'.trans hlast)

/-- A settled end is enough. -/
theorem settled_append_right (T : List (Occurrence ι)) {U : List (Occurrence ι)} (hU : Settled U)
    (hne : U ≠ []) : Settled (T ++ U) := by
  intro p e hlast
  rw [List.getLast?_append_of_ne_nil T hne] at hlast
  exact hU p e hlast

theorem settled_decided {U : List (Occurrence ι)} (hU : ∀ o ∈ U, o.IsAside) (round : Round)
    (time : Nat) (e : DispatchError) (attempt : Nat) (directive : Directive) :
    Settled (.decided round time e attempt directive :: U) := by
  have hone : Settled [Occurrence.decided (ι := ι) round time e attempt directive] := by
    intro p err hlast
    cases hlast
  exact settled_append hone (settled_of_aside hU)

/-- Whether a stretch is settled is seen at its end. -/
theorem Settled.of_cons {o : Occurrence ι} {T : List (Occurrence ι)} (h : Settled (o :: T)) :
    Settled T := by
  intro p e hlast
  have hne : T ≠ [] := by
    rintro rfl
    cases hlast
  exact h p e (by rw [List.getLast?_cons_of_ne_nil hne, hlast])

/-- A stretch that is settled is read for handings on its own, whatever comes behind it. -/
theorem handings_append {T : List (Occurrence ι)} (h : Settled T) (U : List (Occurrence ι)) :
    handings (T ++ U) = handings T ++ handings U := by
  induction T with
  | nil => rfl
  | cons o rest ih =>
    have hrest := ih h.of_cons
    cases o with
    | dispatched p outcome =>
      cases outcome with
      | ok n =>
        show _ :: handings (rest ++ U) = _ :: (handings rest ++ handings U)
        rw [hrest]
      | error e =>
        -- the decision follows within the stretch, since this failure does not end it
        have hanswer : answer? (rest ++ U) = answer? rest := by
          cases rest with
          | nil => exact absurd rfl (h p e)
          | cons o' rest' =>
            cases o' with
            | decided round time err attempt directive => cases round <;> rfl
            | _ => rfl
        show (⟨p, .error e, answer? (rest ++ U)⟩ : Handing) :: handings (rest ++ U)
          = ⟨p, .error e, answer? rest⟩ :: (handings rest ++ handings U)
        rw [hrest, hanswer]
    | _ => exact hrest

/-- A failure and the decision about it make the last handing of a stretch. -/
theorem handings_failed {T U V : List (Occurrence ι)} (hT : Settled T)
    (hU : ∀ o ∈ U, o.IsAside) (hV : ∀ o ∈ V, o.IsAside) (p : Projectable) (e : DispatchError)
    (time attempt : Nat) (directive : Directive) :
    handings (T ++ (U ++ .dispatched p (.error e) :: .decided .cycle time e attempt directive :: V))
      = handings T ++ [⟨p, .error e, some directive⟩] := by
  rw [handings_append hT, handings_append (settled_of_aside hU), handings_of_aside hU]
  show handings T ++ ([⟨p, .error e, some directive⟩] ++ handings V) = _
  rw [handings_of_aside hV, List.append_nil]

/-- The stretch hands out these entries in this order, and each is dispatched without a
failure. -/
structure Handled (es : List Entry) (T : List (Occurrence ι)) : Prop where
  settled : Settled T
  projectables : (handings T).map Handing.projectable = es.map Projectable.ofEntry
  handled : ∀ h ∈ handings T, ∃ n, h.outcome = .ok n ∧ h.directive = none

theorem handled_nil : Handled [] ([] : List (Occurrence ι)) where
  settled _ _ h := by cases h
  projectables := rfl
  handled _ h := by cases h

/-- An entry that is dispatched goes in front, with what its projections did before it was noted. -/
theorem Handled.cons {e : Entry} {es : List Entry} {T U : List (Occurrence ι)} (n : Nat)
    (hT : ∀ o ∈ T, o.IsAside) (hU : Handled es U) :
    Handled (e :: es) (T ++ .dispatched (.ofEntry e) (.ok n) :: U) := by
  have hlist : handings (T ++ .dispatched (.ofEntry e) (.ok n) :: U)
      = ⟨.ofEntry e, .ok n, none⟩ :: handings U := by
    rw [handings_append (settled_of_aside hT), handings_of_aside hT]
    rfl
  have hone : Settled [Occurrence.dispatched (ι := ι) (.ofEntry e) (.ok n)] := by
    intro p err hlast
    cases hlast
  refine ⟨?_, ?_, ?_⟩
  · exact settled_append (settled_of_aside hT) (settled_append hone hU.settled)
  · rw [hlist, List.map_cons, hU.projectables, List.map_cons]
  · intro h hh
    rw [hlist] at hh
    rcases List.mem_cons.1 hh with rfl | hh
    · exact ⟨n, rfl, rfl⟩
    · exact hU.handled h hh

/-! ### The entries of a batch -/

/-- The error came of something at `position`, and tells this place; or it came of poisoned
routes, and tells none. -/
def DispatchError.Concerns (err : DispatchError) (r : Router ι) (position : Option Nat) : Prop :=
  (err = .routing .poisoned ∧ r.isPoisoned) ∨ err.globalPosition = position

theorem DispatchError.Concerns.congr {err : DispatchError} {r r' : Router ι}
    {position : Option Nat} (h : err.Concerns r position) (hr : r.isPoisoned = r'.isPoisoned) :
    err.Concerns r' position := by
  rwa [Concerns, ← hr]

namespace Dispatcher

variable [DecidableEq ι] {d : Dispatcher ι σ}

/-- An error at a projectable comes of poisoned routes, or it is reported at the place of the
first entry. -/
theorem concerns_of_dispatch {p : Projectable} {s s' : Site ι σ} {err : DispatchError}
    (h : d.dispatch p s = (.error err, s')) : err.Concerns s.router p.globalPosition := by
  obtain ⟨hanswer, rfl, -⟩ | ⟨found, -, i, -, source, rfl⟩ := exists_of_dispatch_error h
  · exact Or.inl ⟨rfl, (Router.of_matching_error hanswer).2.1⟩
  · exact Or.inr rfl

/-- Entries are dispatched up to the first failure.  Without one the cursor stays; a failure
leaves it at the entry that failed. -/
theorem dispatchEach_cases (d : Dispatcher ι σ) (es : List Entry) (report : CycleCount)
    (s : Site ι σ) :
    (∃ r s' T, d.dispatchEach es report s = (.ok r, s') ∧ s.Onward s' T ∧ Handled es T ∧
      s'.cursor = s.cursor) ∨
    ∃ err s' before e after T U, d.dispatchEach es report s = (.error err, s') ∧
      es = before ++ e :: after ∧ Handled before T ∧ (∀ o ∈ U, o.IsAside) ∧
      s.Onward s' (T ++ (U ++ [.dispatched (.ofEntry e) (.error err)])) ∧
      err.Concerns s.router (some e.globalPosition) ∧ s'.cursor = e.globalPosition := by
  induction es generalizing report s with
  | nil => exact Or.inl ⟨report, s, [], rfl, .refl s, handled_nil, rfl⟩
  | cons e rest ih =>
    -- dispatching `e` leaves the cursor alone; what it adds is `T`, and the note comes behind
    obtain ⟨T, hT⟩ := aside_of_handles (handles_dispatch d (.ofEntry e) s)
    have hsame := isPoisoned_of_handles (handles_dispatch d (.ofEntry e) s)
    rw [dispatchEach]
    rcases hd : d.dispatch (.ofEntry e) s with ⟨err | n, s₁⟩ <;> rw [hd] at hT hsame <;>
      dsimp only at hT hsame ⊢
    · have hpos := concerns_of_dispatch hd
      -- `e` is the first to fail, and the cursor is sent back to it
      refine Or.inr ⟨err, _, [], e, rest, [], T, rfl, rfl, handled_nil, hT.aside, ?_, hpos, rfl⟩
      have hnote : s₁.Onward (s₁.note (.dispatched (.ofEntry e) (.error err)))
        [.dispatched (.ofEntry e) (.error err)] := .note _ (by simp)
      simpa using (hT.toOnward.trans hnote).trans (.seek _ e.globalPosition)
    · have hnote : s₁.Onward (s₁.note (.dispatched (.ofEntry e) (.ok n)))
        [.dispatched (.ofEntry e) (.ok n)] := .note _ (by simp)
      have hfirst := hT.toOnward.trans hnote
      rcases ih (report.count n) (s₁.note (.dispatched (.ofEntry e) (.ok n))) with
        ⟨r, s', U, heq, hU, hhand, hcur⟩ |
        ⟨err, s', before, e', after, U, V, heq, hes, hhand, haside, hU, hpos, hcur⟩
      · refine Or.inl ⟨r, s', T ++ .dispatched (.ofEntry e) (.ok n) :: U, heq, ?_, ?_, ?_⟩
        · simpa using hfirst.trans hU
        · exact hhand.cons n hT.aside
        · exact hcur.trans hT.cursor
      · refine Or.inr ⟨err, s', e :: before, e', after, T ++ .dispatched (.ofEntry e) (.ok n) :: U,
          V, heq, ?_, hhand.cons n hT.aside, haside, ?_, hpos.congr hsame, hcur⟩
        · rw [hes, List.cons_append]
        · simpa using hfirst.trans hU

/-- A cycle handles its whole batch, fails to read, or fails at one entry of the batch after
it has handled those before it. -/
theorem runCycle_cases (d : Dispatcher ι σ) (s : Site ι σ) :
    (∃ r s' T, d.runCycle s = (.ok r, s') ∧ s.Onward s' T ∧
      Handled (s.journal.readFrom s.cursor d.config.batchSize) T ∧
      s'.cursor = s.cursor + (s.journal.readFrom s.cursor d.config.batchSize).length) ∨
    (∃ err s', d.runCycle s = (.error err, s') ∧ s.Onward s' [] ∧ err.globalPosition = none ∧
      s'.cursor = s.cursor) ∨
    ∃ err s' before e after T U, d.runCycle s = (.error err, s') ∧
      s.journal.readFrom s.cursor d.config.batchSize = before ++ e :: after ∧
      Handled before T ∧ (∀ o ∈ U, o.IsAside) ∧
      s.Onward s' (T ++ (U ++ [.dispatched (.ofEntry e) (.error err)])) ∧
      err.Concerns s.router (some e.globalPosition) ∧ s'.cursor = e.globalPosition := by
  have hread := Site.Onward.readNext s d.config.batchSize
  unfold runCycle
  unfold Site.readNext at hread ⊢
  split at hread
  · exact Or.inr (Or.inl ⟨_, _, rfl, hread, rfl, rfl⟩)
  · dsimp only at hread ⊢
    -- the cursor is behind the whole batch before any of it is dispatched
    generalize hs₁ : ({ s with
      outages := s.outages.tail
      cursor := s.cursor + (s.journal.readFrom s.cursor d.config.batchSize).length } :
        Site ι σ) = s₁ at hread ⊢
    have hrouter : s₁.router = s.router := by
      rw [← hs₁]
    have hcur : s₁.cursor = s.cursor + (s.journal.readFrom s.cursor d.config.batchSize).length := by
      rw [← hs₁]
    rcases dispatchEach_cases d (s.journal.readFrom s.cursor d.config.batchSize)
        { read := (s.journal.readFrom s.cursor d.config.batchSize).length } s₁ with
      ⟨r, s', T, heq, hT, hhand, hcur'⟩ |
      ⟨err, s', before, e, after, T, U, heq, hes, hhand, haside, hU, hpos, hcur'⟩
    · exact Or.inl ⟨r, s', T, heq, hread.trans hT, hhand, hcur'.trans hcur⟩
    · rw [hrouter] at hpos
      exact Or.inr (Or.inr
        ⟨err, s', before, e, after, T, U, heq, hes, hhand, haside, hread.trans hU, hpos, hcur'⟩)

/-- However a cycle ends, it leads onward. -/
theorem onward_runCycle (d : Dispatcher ι σ) (s : Site ι σ) :
    ∃ T, s.Onward (d.runCycle s).2 T := by
  rcases d.runCycle_cases s with ⟨r, s', T, heq, hT, -⟩ | ⟨err, s', heq, hT, -⟩ |
    ⟨err, s', before, e, after, T, U, heq, -, -, -, hT, -⟩
  all_goals
    rw [heq]
    exact ⟨_, hT⟩

/-- Entries are handed out on routes that nobody poisons meanwhile. -/
theorem isPoisoned_dispatchEach (d : Dispatcher ι σ) (es : List Entry) (report : CycleCount)
    (s : Site ι σ) :
    (d.dispatchEach es report s).2.router.isPoisoned = s.router.isPoisoned := by
  induction es generalizing report s with
  | nil => rfl
  | cons e rest ih =>
    have hfirst := isPoisoned_of_handles (d.handles_dispatch (.ofEntry e) s)
    rw [dispatchEach]
    split <;> rename_i hd <;> rw [hd] at hfirst
    · exact hfirst
    · exact (ih _ _).trans hfirst

theorem isPoisoned_runCycle (d : Dispatcher ι σ) (s : Site ι σ) :
    (d.runCycle s).2.router.isPoisoned = s.router.isPoisoned := by
  unfold runCycle Site.readNext
  split <;> rename_i hread <;> split at hread <;> cases hread
  · rfl
  · exact isPoisoned_dispatchEach ..

end Dispatcher

/-! ### Cycles -/

/-- Where the cursor belongs after a failure at the entry at `position`. -/
def Directive.target : Directive → Nat → Nat
  | .resume, position | .restart, position => position + 1
  | .retryAfter _, position | .stop, position => position

namespace Worker

theorem onward_place (position : Option Nat) (target : Nat → Nat) (s : Site ι σ) :
    s.Onward (place position target s) [] := by
  cases position with
  | none => exact .refl s
  | some p => exact .seek s (target p)

/-- Without a position the cursor stays. -/
theorem cursor_place (position : Option Nat) (target : Nat → Nat) (s : Site ι σ) :
    (place position target s).cursor = (position.map target).getD s.cursor := by
  cases position <;> rfl

variable [DecidableEq ι]

/-- A reset reads nothing. -/
theorem aside_resetFailed (d : Dispatcher ι σ) (e : DispatchError) (s : Site ι σ) :
    ∃ U, s.Aside (resetFailed d e s) U := by
  unfold resetFailed
  split
  · exact ⟨[], .refl s⟩
  · exact Dispatcher.aside_of_handles (Dispatcher.handles_resetNamed ..)

/-- Following a directive moves the cursor to its target; the worker is finished if it is told
to stop. -/
theorem obey_spec (d : Dispatcher ι σ) (time : Nat) (e : DispatchError) (attempt : Nat)
    (w : Worker) (s : Site ι σ) (directive : Directive) :
    ∃ U, s.Onward (obey d time e attempt w s directive).2 U ∧ (∀ o ∈ U, o.IsAside) ∧
      (obey d time e attempt w s directive).2.cursor
        = (e.globalPosition.map directive.target).getD s.cursor ∧
      (directive = .stop → (obey d time e attempt w s directive).1.isFinished) := by
  have hplace (target : Nat → Nat) : s.Onward (place e.globalPosition target s) [] :=
    onward_place ..
  cases directive with
  | resume => exact ⟨[], hplace _, by simp, cursor_place .., by simp⟩
  | restart =>
    obtain ⟨U, hU⟩ := aside_resetFailed d e s
    refine ⟨U ++ [], hU.toOnward.trans (onward_place ..), by simpa using hU.aside, ?_, by simp⟩
    show (place e.globalPosition (· + 1) (resetFailed d e s)).cursor = _
    rw [cursor_place, hU.cursor]
    rfl
  | retryAfter delay => exact ⟨[], hplace _, by simp, cursor_place .., by simp⟩
  | stop => exact ⟨[], hplace _, by simp, cursor_place .., fun _ => rfl⟩

/-- The supervisor's directive about a failed cycle is noted and followed. -/
theorem askSupervisor_spec (d : Dispatcher ι σ) (decide : Supervisor) (time : Nat)
    (e : DispatchError) (w : Worker) (s : Site ι σ) :
    ∃ attempt directive U,
      s.Onward (askSupervisor d decide time e w s).2
        (.decided .cycle time e attempt directive :: U) ∧ (∀ o ∈ U, o.IsAside) ∧
      (askSupervisor d decide time e w s).2.cursor
        = (e.globalPosition.map directive.target).getD s.cursor ∧
      (directive = .stop → (askSupervisor d decide time e w s).1.isFinished) := by
  let attempt := w.attemptAt e.globalPosition
  let directive := decide e attempt
  obtain ⟨U, hU, haside, hcur, hstop⟩ := obey_spec d time e attempt w.fail
    (s.note (.decided .cycle time e attempt directive)) directive
  exact ⟨attempt, directive, U, (Site.Onward.note s (by simp)).trans hU, haside, hcur, hstop⟩

/-- The worker does nothing at a tick of its first clock. -/
def Rests (w : Worker) (time : Nat) : Prop :=
  (w.isFinished || w.isPaused || w.isWaiting time) = true

/-- What a tick of the first clock can have done, by the stretch that it adds to the trace. -/
inductive Cycled (d : Dispatcher ι σ) (time : Nat) (w : Worker) (s : Site ι σ) (w' : Worker)
    (s' : Site ι σ) : List (Occurrence ι) → Prop
  | rested : w.Rests time → w' = w → s' = s → Cycled d time w s w' s' []
  /-- The whole batch was handled. -/
  | handled {T : List (Occurrence ι)} :
      Handled (s.journal.readFrom s.cursor d.config.batchSize) T →
      s'.cursor = s.cursor + (s.journal.readFrom s.cursor d.config.batchSize).length →
      Cycled d time w s w' s' T
  /-- Nothing could be read. -/
  | unread {err : DispatchError} {attempt : Nat} {directive : Directive}
      {U : List (Occurrence ι)} :
      (∀ o ∈ U, o.IsAside) → s'.cursor = s.cursor → (directive = .stop → w'.isFinished) →
      Cycled d time w s w' s' (.decided .cycle time err attempt directive :: U)
  /-- The entry `e` of the batch failed after those before it were handled.  If the error tells
  no place, the cursor is not moved from this entry. -/
  | failed {before after : List Entry} {e : Entry} {T U V : List (Occurrence ι)}
      {err : DispatchError} {attempt : Nat} {directive : Directive} :
      s.journal.readFrom s.cursor d.config.batchSize = before ++ e :: after →
      Handled before T → (∀ o ∈ U, o.IsAside) → (∀ o ∈ V, o.IsAside) →
      err.Concerns s.router (some e.globalPosition) →
      s'.cursor = (err.globalPosition.map directive.target).getD e.globalPosition →
      (directive = .stop → w'.isFinished) →
      Cycled d time w s w' s'
        (T ++ (U ++ .dispatched (.ofEntry e) (.error err) ::
          .decided .cycle time err attempt directive :: V))

/-- Every tick of the first clock is one of these. -/
theorem cycled_cycle (d : Dispatcher ι σ) (decide : Supervisor) (time : Nat) (w : Worker)
    (s : Site ι σ) :
    ∃ T, s.Onward (w.cycle d decide time s).2 T ∧
      Cycled d time w s (w.cycle d decide time s).1 (w.cycle d decide time s).2 T := by
  unfold cycle
  split
  · rename_i hrests
    exact ⟨[], .refl s, .rested hrests rfl rfl⟩
  · rcases d.runCycle_cases s with ⟨r, s', T, heq, hT, hhand, hcur⟩ |
      ⟨err, s', heq, hT, hpos, hcur⟩ |
      ⟨err, s', before, e, after, T, U, heq, hbatch, hhand, hU, hT, hpos, hcur⟩ <;> rw [heq]
    · exact ⟨T, hT, .handled hhand hcur⟩
    · obtain ⟨attempt, directive, V, hV, haside, hcur', hstop⟩ :=
        askSupervisor_spec d decide time err w s'
      -- without a position the directive leaves the cursor where reading left it
      rw [hpos] at hcur'
      exact ⟨_, hT.trans hV, .unread haside (hcur'.trans hcur) hstop⟩
    · obtain ⟨attempt, directive, V, hV, haside, hcur', hstop⟩ :=
        askSupervisor_spec d decide time err w s'
      -- the cursor stands at the entry that failed, and the directive counts from there
      rw [hcur] at hcur'
      refine ⟨T ++ (U ++ .dispatched (.ofEntry e) (.error err) ::
        .decided .cycle time err attempt directive :: V), ?_, ?_⟩
      · simpa using hT.trans hV
      · exact .failed hbatch hhand hU haside hpos hcur' hstop

/-- Looking after what is overdue is work beside reading on. -/
theorem aside_recheck (d : Dispatcher ι σ) (decide : Supervisor) (time : Nat) (w : Worker)
    (s : Site ι σ) : ∃ T, s.Aside (w.recheck d decide time s).2 T := by
  unfold recheck
  split
  · exact ⟨[], .refl s⟩
  · obtain ⟨T, hT⟩ := Dispatcher.aside_of_handles (d.handles_redispatchOverdue s)
    rcases hd : d.redispatchOverdue s with ⟨err | n, s'⟩ <;> rw [hd] at hT
    · dsimp only at hT ⊢
      have hnote : s'.Aside (s'.note (.decided .recheck time err 1 (decide err 1)))
          [.decided .recheck time err 1 (decide err 1)] :=
        ⟨.note _ (by simp), rfl, by simp [Occurrence.IsAside]⟩
      have hobey : ∃ U, (s'.note (.decided .recheck time err 1 (decide err 1))).Aside
          (obeyRecheck d err w.fail (s'.note (.decided .recheck time err 1 (decide err 1)))
            (decide err 1)).2 U := by
        cases decide err 1 with
        | restart => exact aside_resetFailed ..
        | _ => exact ⟨[], .refl _⟩
      obtain ⟨U, hU⟩ := hobey
      exact ⟨_, (hT.trans hnote).trans hU⟩
    · exact ⟨T, hT⟩

/-! ### Whether the routes can be asked -/

theorem isPoisoned_resetFailed (d : Dispatcher ι σ) (e : DispatchError) (s : Site ι σ) :
    (resetFailed d e s).router.isPoisoned = s.router.isPoisoned := by
  unfold resetFailed
  split
  · rfl
  · exact Dispatcher.isPoisoned_of_handles (d.handles_resetNamed _ s)

omit [DecidableEq ι] in
theorem router_place (position : Option Nat) (target : Nat → Nat) (s : Site ι σ) :
    (place position target s).router = s.router := by
  cases position <;> rfl

/-- A tick does not change whether the routes can be asked. -/
theorem isPoisoned_tick (d : Dispatcher ι σ) (decide : Supervisor) (round : Round) (time : Nat)
    (w : Worker) (s : Site ι σ) :
    (w.tick d decide round time s).2.router.isPoisoned = s.router.isPoisoned := by
  cases round with
  | cycle =>
    show (w.cycle d decide time s).2.router.isPoisoned = _
    have hrun := d.isPoisoned_runCycle s
    unfold cycle
    split
    · rfl
    · split <;> rename_i hcycle <;> rw [hcycle] at hrun
      · exact hrun
      · rename_i e s'
        unfold askSupervisor
        dsimp only
        cases decide e (w.attemptAt e.globalPosition) <;> dsimp only [obey] <;>
          rw [router_place]
        case restart => exact (isPoisoned_resetFailed ..).trans hrun
        all_goals exact hrun
  | recheck =>
    show (w.recheck d decide time s).2.router.isPoisoned = _
    have hrun := Dispatcher.isPoisoned_of_handles (d.handles_redispatchOverdue s)
    unfold recheck
    split
    · rfl
    · split <;> rename_i hcycle <;> rw [hcycle] at hrun
      · exact hrun
      · rename_i e s'
        dsimp only
        cases decide e 1
        case restart => exact (isPoisoned_resetFailed ..).trans hrun
        all_goals exact hrun

end Worker

end EventJournal
