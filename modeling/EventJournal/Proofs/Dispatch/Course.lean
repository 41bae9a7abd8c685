/-
EventJournal/Proofs/Dispatch/Course.lean

The course of the entries when they are taken one at a time.

A worker reads entries in batches, at times that its clock gives it, and keeps a record of
the last failure.  Here are neither batches nor times: a turn hands out the entry at the
cursor and follows the supervisor's directive if that fails, and there is no turn when
nothing is left or the supervisor has said to stop.  Failures are counted at the cursor,
and the count starts anew as soon as the cursor moves or the supervisor has said to go on.  An
entry for which the routes refuse to answer is never passed, so the turns at it have no end
unless the supervisor says to stop.

A turn is a function of what there was before it, so what the turns lead to in the end is
determined by where they start; this end is `StateTransition.eval` of `Dispatcher.turn`.

Main result: if the supervisor has said to stop on the way, then that was the last turn
(`isStopped_of_reaches`).
-/
import EventJournal.Proofs.Dispatch.Cycle
import Mathlib.Computability.StateTransition

namespace EventJournal

variable {ι σ : Type}

/-- How far the entries were taken. -/
structure Progress (ι σ : Type) where
  site : Site ι σ
  /-- How often the entry at the cursor has failed in a row. -/
  failures : Nat := 0
  /-- The supervisor has said to stop. -/
  isStopped : Bool := false

/-- Which attempt in a row the next one at the entry at the cursor is, should it fail. -/
def Progress.attempt (g : Progress ι σ) : Nat := min (g.failures + 1) Worker.lastAttempt

theorem Progress.attempt_of_failures_eq_zero {g : Progress ι σ} (h : g.failures = 0) :
    g.attempt = 1 := by
  unfold attempt
  rw [h]
  rfl

/-- A supervisor says to stop reading on. -/
def Occurrence.Stops : Occurrence ι → Prop
  | .decided .cycle _ _ _ .stop => True
  | _ => False

/-- Work beside reading on does not say so. -/
theorem not_stops_of_aside {T : List (Occurrence ι)} (h : ∀ o ∈ T, o.IsAside) {o : Occurrence ι}
    (ho : o ∈ T) : ¬ o.Stops := by
  have haside := h o ho
  cases o with
  | decided round time e attempt directive =>
    cases round with
    | cycle => cases haside
    | recheck => exact id
  | _ => exact id

namespace Dispatcher

variable [DecidableEq ι]

/-! ### Turns -/

/-- Follows a directive about the entry at the cursor, which has failed for the `attempt`-th
time in a row.  The entry is passed if the error tells its place. -/
def afterFailure (d : Dispatcher ι σ) (e : DispatchError) (attempt : Nat) (s : Site ι σ) :
    Directive → Progress ι σ
  | .resume => { site := Worker.place e.globalPosition (· + 1) s }
  | .restart => { site := Worker.place e.globalPosition (· + 1) (Worker.resetFailed d e s) }
  | .retryAfter _ => { site := s, failures := attempt }
  | .stop => { site := s, failures := attempt, isStopped := true }

/-- Asks the supervisor about the entry at the cursor and follows the directive. -/
def consult (d : Dispatcher ι σ) (decide : Supervisor) (e : DispatchError) (attempt : Nat)
    (s : Site ι σ) : Progress ι σ :=
  d.afterFailure e attempt (s.note (.decided .cycle 0 e attempt (decide e attempt)))
    (decide e attempt)

/-- What comes of handing out the entry `e` at the cursor. -/
def take (d : Dispatcher ι σ) (decide : Supervisor) (g : Progress ι σ) (e : Entry) :
    Progress ι σ :=
  match d.dispatch (.ofEntry e) g.site with
  | (.ok n, s) => { site := (s.note (.dispatched (.ofEntry e) (.ok n))).seek (s.cursor + 1) }
  | (.error err, s) =>
    d.consult decide err g.attempt (s.note (.dispatched (.ofEntry e) (.error err)))

/-- The next turn, if there is one. -/
def turn (d : Dispatcher ι σ) (decide : Supervisor) (g : Progress ι σ) :
    Option (Progress ι σ) :=
  if g.isStopped then none else g.site.journal.log[g.site.cursor]?.map (d.take decide g)

variable {d : Dispatcher ι σ} {decide : Supervisor} {g g' : Progress ι σ}

theorem turn_of_isStopped (h : g.isStopped) : d.turn decide g = none := if_pos h

/-- There is no turn behind the last entry. -/
theorem turn_of_length_le (h : g.site.journal.length ≤ g.site.cursor) :
    d.turn decide g = none := by
  unfold turn
  rw [List.getElem?_eq_none h]
  exact ite_self none

theorem turn_of_getElem? (h : g.isStopped = false) {e : Entry}
    (he : g.site.journal.log[g.site.cursor]? = some e) :
    d.turn decide g = some (d.take decide g e) := by
  unfold turn
  rw [he, h]
  rfl

/-! ### Stopping -/

/-- What is noted when the supervisor is asked says to stop only if the supervisor does. -/
theorem trace_consult (d : Dispatcher ι σ) (decide : Supervisor) (e : DispatchError)
    (attempt : Nat) (s : Site ι σ) :
    ∃ U, (d.consult decide e attempt s).site.trace = s.trace ++ U ∧
      ∀ o ∈ U, o.Stops → (d.consult decide e attempt s).isStopped := by
  unfold consult
  cases decide e attempt with
  | restart =>
    -- the reset that follows is work beside reading on
    obtain ⟨U, hU⟩ := Worker.aside_resetFailed d e
      (s.note (.decided .cycle 0 e attempt .restart))
    refine ⟨.decided .cycle 0 e attempt .restart :: U, ?_, ?_⟩
    · have hplace := Worker.onward_place e.globalPosition (· + 1)
        (Worker.resetFailed d e (s.note (.decided .cycle 0 e attempt .restart)))
      exact (hplace.trace.trans (List.append_nil _)).trans
        (hU.trace.trans (List.append_assoc ..))
    · intro o ho hstops
      rcases List.mem_cons.1 ho with rfl | ho
      · cases hstops
      · exact absurd hstops (not_stops_of_aside hU.aside ho)
  | stop => exact ⟨_, rfl, fun _ _ _ => rfl⟩
  | resume =>
    -- the cursor is moved without a word
    have hplace := Worker.onward_place e.globalPosition (· + 1)
      (s.note (.decided .cycle 0 e attempt .resume))
    refine ⟨[.decided .cycle 0 e attempt .resume], hplace.trace.trans (List.append_nil _), ?_⟩
    intro o ho hstops
    rw [List.mem_singleton.1 ho] at hstops
    cases hstops
  | retryAfter delay =>
    refine ⟨_, rfl, ?_⟩
    intro o ho hstops
    rw [List.mem_singleton.1 ho] at hstops
    cases hstops

/-- What a turn adds to the trace says to stop only if the turn is the last one. -/
theorem trace_take (d : Dispatcher ι σ) (decide : Supervisor) (g : Progress ι σ) (e : Entry) :
    ∃ T, (d.take decide g e).site.trace = g.site.trace ++ T ∧
      ∀ o ∈ T, o.Stops → (d.take decide g e).isStopped := by
  obtain ⟨T, hT⟩ := aside_of_handles (handles_dispatch d (.ofEntry e) g.site)
  unfold take
  rcases hd : d.dispatch (.ofEntry e) g.site with ⟨err | n, s⟩ <;> rw [hd] at hT <;>
    dsimp only at hT ⊢
  · -- only the supervisor can say so, and it is asked last
    obtain ⟨U, hU, hstopsU⟩ := trace_consult d decide err g.attempt
      (s.note (.dispatched (.ofEntry e) (.error err)))
    refine ⟨T ++ .dispatched (.ofEntry e) (.error err) :: U, ?_, ?_⟩
    · rw [hU]
      simp only [Site.note, hT.trace, List.append_assoc, List.cons_append, List.nil_append]
    · intro o ho hstops
      rw [List.mem_append, List.mem_cons] at ho
      rcases ho with ho | rfl | ho
      · exact absurd hstops (not_stops_of_aside hT.aside ho)
      · cases hstops
      · exact hstopsU o ho hstops
  · refine ⟨T ++ [.dispatched (.ofEntry e) (.ok n)], ?_, ?_⟩
    · show s.trace ++ _ = g.site.trace ++ _
      rw [hT.trace, List.append_assoc]
    · intro o ho hstops
      rcases List.mem_append.1 ho with ho | ho
      · exact absurd hstops (not_stops_of_aside hT.aside ho)
      · rw [List.mem_singleton.1 ho] at hstops
        cases hstops

/-- Turns add to the trace, and if they add the word to stop, then it was the last turn. -/
theorem isStopped_of_reaches (h : StateTransition.Reaches (d.turn decide) g g') :
    ∃ T, g'.site.trace = g.site.trace ++ T ∧ ∀ o ∈ T, o.Stops → g'.isStopped := by
  induction h with
  | refl => exact ⟨[], (List.append_nil _).symm, by simp⟩
  | @tail g₁ g₂ _ hturn ih =>
    obtain ⟨T, hT, hstopsT⟩ := ih
    -- there was a further turn, so nothing said to stop before it
    have hgoing : ¬ g₁.isStopped := by
      intro hstopped
      rw [turn_of_isStopped hstopped] at hturn
      cases hturn
    -- each turn hands out an entry
    have htaken : ∃ e, d.take decide g₁ e = g₂ := by
      unfold turn at hturn
      rw [if_neg hgoing] at hturn
      obtain ⟨e, -, he⟩ := Option.map_eq_some_iff.1 hturn
      exact ⟨e, he⟩
    obtain ⟨e, rfl⟩ := htaken
    obtain ⟨U, hU, hstopsU⟩ := trace_take d decide g₁ e
    refine ⟨T ++ U, by rw [hU, hT, List.append_assoc], ?_⟩
    intro o ho hstops
    rcases List.mem_append.1 ho with ho | ho
    · exact absurd (hstopsT o ho hstops) hgoing
    · exact hstopsU o ho hstops

end Dispatcher

end EventJournal
