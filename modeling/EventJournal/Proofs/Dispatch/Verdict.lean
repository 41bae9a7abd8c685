/-
EventJournal/Proofs/Dispatch/Verdict.lean

What the supervisor decides about failed cycles, and what the worker keeps of it.

A verdict is a decision about a cycle that failed, with what the supervisor was told.  A
cycle ends in one verdict at most.  What the worker remembers afterwards depends on the
verdict alone (`Worker.heed`), and not on the projections or on what was read, so whoever
counts failures has to look at nothing else: `Worker.Judged` lists the three ways in which
a cycle can end for the count.

A verdict about a failed read or about poisoned routes tells no place (`Verdict.position`).

Main results: `judged_make` for cycles, and `failures_run`, by which the verdicts that tell a
place are about the entries at which a projection failed, one for each and in their order.
-/
import EventJournal.Proofs.Dispatch.Order
import Mathlib.Data.List.Induction

namespace EventJournal

variable {ι σ : Type}

/-! ### Verdicts -/

/-- A decision of the supervisor about a cycle that failed. -/
structure Verdict where
  time : Nat
  error : DispatchError
  /-- Which failure in a row it is, as the supervisor was told. -/
  attempt : Nat
  directive : Directive

namespace Verdict

/-- The place of the entry at which a projection failed, if one did. -/
def position (v : Verdict) : Option Nat := v.error.globalPosition

/-- Where the cursor belongs once the verdict is followed. -/
def target (v : Verdict) (cursor : Nat) : Nat := (v.position.map v.directive.target).getD cursor

/-- The place of the entry that failed, with the error. -/
def failure? (v : Verdict) : Option (Nat × DispatchError) := v.position.map fun p => (p, v.error)

theorem target_of_position {v : Verdict} {p : Nat} (h : v.position = some p) (cursor : Nat) :
    v.target cursor = v.directive.target p := by
  rw [target, h]
  rfl

theorem filterMap_failure_singleton (v : Verdict) :
    [v].filterMap failure? = (v.position.map fun p => (p, v.error)).toList := by
  unfold failure?
  cases h : v.position <;> simp [h]

end Verdict

/-- The place of the entry, with the error, if a projection failed at it. -/
def Handing.failure? (h : Handing) : Option (Nat × DispatchError) :=
  match h.outcome with
  | .ok _ => none
  | .error e => if e.globalPosition = h.position then h.position.map fun p => (p, e) else none

/-- What is handled has not failed. -/
theorem Handled.filterMap_failure {es : List Entry} {T : List (Occurrence ι)} (h : Handled es T) :
    (handings T).filterMap Handing.failure? = [] := by
  refine List.filterMap_eq_nil_iff.2 fun handing hmem => ?_
  obtain ⟨n, hok, -⟩ := h.handled handing hmem
  rw [Handing.failure?, hok]

/-- An entry that fails behind those that were handled is the only failure, and counts if the
error tells its place. -/
theorem Handled.filterMap_failure_concat {es : List Entry} {T U V : List (Occurrence ι)}
    (h : Handled es T) (hU : ∀ o ∈ U, o.IsAside) (hV : ∀ o ∈ V, o.IsAside) {r : Router ι}
    {e : Entry} {err : DispatchError} (hplace : err.Concerns r (some e.globalPosition))
    (time attempt : Nat) (directive : Directive) :
    (handings (T ++ (U ++ [.dispatched (.ofEntry e) (.error err)]) ++
        .decided .cycle time err attempt directive :: V)).filterMap Handing.failure?
      = (err.globalPosition.map fun p => (p, err)).toList := by
  have htrace : T ++ (U ++ [.dispatched (.ofEntry e) (.error err)]) ++
      .decided .cycle time err attempt directive :: V
      = T ++ (U ++ .dispatched (.ofEntry e) (.error err) ::
        .decided .cycle time err attempt directive :: V) := by simp
  rw [htrace, handings_failed h.settled hU hV, List.filterMap_append, h.filterMap_failure]
  rcases hplace with ⟨rfl, -⟩ | hplace
  · rfl
  · have hfailure : (⟨.ofEntry e, .error err, some directive⟩ : Handing).failure?
        = some (e.globalPosition, err) := if_pos hplace
    rw [hplace, List.nil_append, List.filterMap_cons_some hfailure]
    rfl

def Occurrence.verdict? : Occurrence ι → Option Verdict
  | .decided .cycle time e attempt directive => some ⟨time, e, attempt, directive⟩
  | _ => none

/-- The verdicts in a stretch of a trace. -/
def verdictsIn (T : List (Occurrence ι)) : List Verdict := T.filterMap Occurrence.verdict?

theorem verdictsIn_append (T U : List (Occurrence ι)) :
    verdictsIn (T ++ U) = verdictsIn T ++ verdictsIn U := List.filterMap_append

/-- Work beside reading on decides nothing about cycles. -/
theorem verdictsIn_of_aside {T : List (Occurrence ι)} (h : ∀ o ∈ T, o.IsAside) :
    verdictsIn T = [] := by
  refine List.filterMap_eq_nil_iff.2 fun o ho => ?_
  have haside := h o ho
  cases o with
  | decided round time e attempt directive =>
    cases round with
    | cycle => cases haside
    | recheck => rfl
  | _ => rfl

theorem verdictsIn_decided {U : List (Occurrence ι)} (hU : ∀ o ∈ U, o.IsAside) (time : Nat)
    (e : DispatchError) (attempt : Nat) (directive : Directive) :
    verdictsIn (.decided .cycle time e attempt directive :: U)
      = [⟨time, e, attempt, directive⟩] :=
  congrArg (_ :: ·) (verdictsIn_of_aside hU)

theorem Site.Aside.verdictsIn_eq {s s' : Site ι σ} {T : List (Occurrence ι)} (h : s.Aside s' T) :
    verdictsIn s'.trace = verdictsIn s.trace := by
  rw [h.trace, verdictsIn_append, verdictsIn_of_aside h.aside, List.append_nil]

/-! ### What a dispatcher does -/

namespace Dispatcher

variable [DecidableEq ι]

/-- A batch comes to no verdict, by induction on its entries. -/
theorem verdictsIn_dispatchEach (d : Dispatcher ι σ) (es : List Entry) (report : CycleCount)
    (s : Site ι σ) : verdictsIn (d.dispatchEach es report s).2.trace = verdictsIn s.trace := by
  induction es generalizing report s with
  | nil => rfl
  | cons e rest ih =>
    obtain ⟨T, hT⟩ := aside_of_handles (handles_dispatch d (.ofEntry e) s)
    have hdispatch := hT.verdictsIn_eq
    -- an entry that was dispatched is noted, and that is no verdict
    have hnote (s' : Site ι σ) (outcome : Except DispatchError Nat) :
        verdictsIn (s'.note (.dispatched (.ofEntry e) outcome)).trace = verdictsIn s'.trace :=
      (verdictsIn_append ..).trans (List.append_nil _)
    rw [dispatchEach]
    split <;> rename_i heq <;> rw [heq] at hdispatch
    · exact (hnote ..).trans hdispatch
    · exact (ih ..).trans ((hnote ..).trans hdispatch)

/-- A dispatcher decides nothing itself. -/
theorem verdictsIn_of_runCycle {d : Dispatcher ι σ} {s s' : Site ι σ}
    {outcome : Except DispatchError CycleCount} {T : List (Occurrence ι)}
    (h : d.runCycle s = (outcome, s')) (hT : s.Onward s' T) : verdictsIn T = [] := by
  have hread := (Site.Onward.readNext s d.config.batchSize).trace
  have htrace : verdictsIn (d.runCycle s).2.trace = verdictsIn s.trace := by
    unfold runCycle
    split <;> rename_i heq <;> rw [heq, List.append_nil] at hread
    · exact congrArg verdictsIn hread
    · exact (verdictsIn_dispatchEach ..).trans (congrArg verdictsIn hread)
  rw [h, hT.trace, verdictsIn_append] at htrace
  exact List.append_right_eq_self.1 htrace

end Dispatcher

/-! ### What the worker keeps -/

/-- An entry of a batch stands in the log, and not before the cursor. -/
theorem Journal.Indexed.of_readFrom {j : Journal} (hj : j.Indexed) {cursor most : Nat}
    {before after : List Entry} {e : Entry} (h : j.readFrom cursor most = before ++ e :: after) :
    cursor ≤ e.globalPosition ∧ e.globalPosition < j.length ∧ 1 ≤ most := by
  have he : j.log[cursor + before.length]? = some e := by
    apply Journal.getElem?_readFrom
    rw [h, List.getElem?_append_right (Nat.le_refl _), Nat.sub_self]
    rfl
  have hlt : cursor + before.length < j.length := (List.getElem?_eq_some_iff.1 he).1
  -- the batch is not empty, so it begins inside the log
  have hlength := congrArg List.length h
  rw [Journal.length_readFrom, List.length_append, List.length_cons] at hlength
  rw [hj.globalPosition_eq he]
  omega

namespace Worker

/-- The worker after it has followed a verdict. -/
def heed (w : Worker) (v : Verdict) : Worker :=
  match v.directive with
  | .resume | .restart => { w with retry := none }
  | .retryAfter delay =>
    if v.time + delay.nanos < clockEnd then
      { w with retry := some ⟨v.position, v.attempt, v.time + delay.nanos⟩ }
    else { w with isFinished := true }
  | .stop => { w with isFinished := true }

/-- A worker that is not finished by a verdict has gone on, or waits for a retry. -/
theorem heed_cases {w : Worker} {v : Verdict} (h : ¬ (w.heed v).isFinished) :
    ((∀ p, v.directive.target p = p + 1) ∧ (w.heed v).retry = none) ∨
    ∃ delay, v.directive = .retryAfter delay ∧
      (w.heed v).retry = some ⟨v.position, v.attempt, v.time + delay.nanos⟩ := by
  unfold heed at h ⊢
  cases hdir : v.directive with
  | resume => exact Or.inl ⟨fun _ => rfl, rfl⟩
  | restart => exact Or.inl ⟨fun _ => rfl, rfl⟩
  | retryAfter delay =>
    rw [hdir] at h
    dsimp only at h ⊢
    split at h
    · rename_i hclock
      exact Or.inr ⟨delay, rfl, by rw [if_pos hclock]⟩
    · exact absurd rfl h
  | stop =>
    rw [hdir] at h
    exact absurd rfl h

variable [DecidableEq ι]

/-- The verdict to which a worker comes about an error. -/
def verdict (decide : Supervisor) (time : Nat) (e : DispatchError) (w : Worker) : Verdict :=
  ⟨time, e, w.attemptAt e.globalPosition, decide e (w.attemptAt e.globalPosition)⟩

/-- The verdict is noted and followed. -/
theorem judged_askSupervisor (d : Dispatcher ι σ) (decide : Supervisor) (time : Nat)
    (e : DispatchError) (w : Worker) (s : Site ι σ) :
    (askSupervisor d decide time e w s).1 = w.fail.heed (w.verdict decide time e) ∧
    ∃ U, s.Onward (askSupervisor d decide time e w s).2
        (.decided .cycle time e (w.verdict decide time e).attempt
          (w.verdict decide time e).directive :: U) ∧
      (∀ o ∈ U, o.IsAside) ∧
      (askSupervisor d decide time e w s).2.cursor
        = (w.verdict decide time e).target s.cursor := by
  have hheed (attempt : Nat) (w' : Worker) (s' : Site ι σ) (directive : Directive) :
      (obey d time e attempt w' s' directive).1 = w'.heed ⟨time, e, attempt, directive⟩ := by
    cases directive <;> rfl
  let v := w.verdict decide time e
  obtain ⟨U, hU, haside, hcur, -⟩ := obey_spec d time e v.attempt w.fail
    (s.note (.decided .cycle time e v.attempt v.directive)) v.directive
  exact ⟨hheed .., U, (Site.Onward.note s (by simp)).trans hU, haside, hcur⟩

/-- How a tick of the first clock can end for somebody who counts failures, by the verdicts in
which it ends. -/
inductive Judged (d : Dispatcher ι σ) (decide : Supervisor) (time : Nat) (w : Worker)
    (s : Site ι σ) (w' : Worker) (s' : Site ι σ) : List Verdict → Prop
  | rested : w' = w → s' = s → Judged d decide time w s w' s' []
  /-- The whole batch was handled. -/
  | passed : w'.retry = none →
      s'.cursor = s.cursor + (s.journal.readFrom s.cursor d.config.batchSize).length →
      Judged d decide time w s w' s' []
  /-- Nothing could be read, an entry of the batch failed, or the routes could not be asked. -/
  | failed (e : DispatchError) :
      ¬ w.Rests time → w' = w.fail.heed (w.verdict decide time e) →
      (∀ p, e.globalPosition = some p →
        s.cursor ≤ p ∧ p < s.journal.length ∧ 1 ≤ d.config.batchSize ∧
          s'.cursor = (w.verdict decide time e).directive.target p) →
      Judged d decide time w s w' s' [w.verdict decide time e]

/-- Every tick of the first clock ends in one of these ways, and a verdict that tells a place is
about the entry at which a projection failed. -/
theorem judged_cycle (d : Dispatcher ι σ) (decide : Supervisor) (time : Nat) (w : Worker)
    {s : Site ι σ} (hj : s.journal.Indexed) :
    ∃ T, s.Onward (w.cycle d decide time s).2 T ∧
      Judged d decide time w s (w.cycle d decide time s).1 (w.cycle d decide time s).2
        (verdictsIn T) ∧
      (handings T).filterMap Handing.failure? = (verdictsIn T).filterMap Verdict.failure? := by
  unfold cycle
  split
  · -- a worker that rests does nothing
    exact ⟨[], .refl s, .rested rfl rfl, rfl⟩
  · rename_i hrests
    rcases d.runCycle_cases s with ⟨r, s', T, heq, hT, hhand, hcur⟩ |
      ⟨err, s', heq, hT, hpos, hcur⟩ |
      ⟨err, s', before, e, after, T, U, heq, hbatch, hhand, hU, hT, hpos, -⟩ <;>
      have hnone := Dispatcher.verdictsIn_of_runCycle heq hT <;> rw [heq]
    · refine ⟨T, hT, ?_, ?_⟩ <;> rw [hnone]
      · exact .passed rfl hcur
      · exact hhand.filterMap_failure
    · obtain ⟨hheed, V, hV, haside, -⟩ := judged_askSupervisor d decide time err w s'
      refine ⟨_, hT.trans hV, ?_, ?_⟩ <;>
        rw [List.nil_append, verdictsIn_decided haside time err]
      · -- a failed read tells no place
        refine .failed err hrests hheed fun p hp => ?_
        rw [hpos] at hp
        cases hp
      · rw [handings_decided haside, Verdict.filterMap_failure_singleton, Verdict.position, verdict,
          hpos]
        rfl
    · obtain ⟨hheed, V, hV, haside, hcur⟩ := judged_askSupervisor d decide time err w s'
      refine ⟨_, hT.trans hV, ?_, ?_⟩ <;>
        rw [verdictsIn_append, hnone, List.nil_append, verdictsIn_decided haside time err]
      · refine .failed err hrests hheed fun p hp => ?_
        -- the routes would tell no place, so it was a projection
        obtain rfl : p = e.globalPosition := by
          rcases hpos with ⟨rfl, -⟩ | hpos
          · cases hp
          · exact Option.some.inj (hp.symm.trans hpos)
        obtain ⟨hle, hlt, hbatch'⟩ := hj.of_readFrom hbatch
        have hposition : (w.verdict decide time err).position = some e.globalPosition := hp
        exact ⟨hle, hlt, hbatch', hcur.trans (Verdict.target_of_position hposition _)⟩
      · rw [hhand.filterMap_failure_concat hU haside hpos]
        exact (w.verdict decide time err).filterMap_failure_singleton.symm

end Worker

/-! ### Runs -/

namespace Watch

variable [DecidableEq ι] {w : Watch ι σ} {ms : List (Move ι σ)}

/-- The verdicts about the cycles of a run. -/
def verdicts (w : Watch ι σ) (ms : List (Move ι σ)) : List Verdict := verdictsIn (w.done ms)

theorem done_nil (w : Watch ι σ) : w.done [] = [] := done_eq (.refl w.site)

theorem verdicts_append (w : Watch ι σ) (ms ms' : List (Move ι σ)) :
    w.verdicts (ms ++ ms') = w.verdicts ms ++ (w.run ms).verdicts ms' := by
  rw [verdicts, done_append, verdictsIn_append]
  rfl

/-- Moves that are no cycles come to none either. -/
theorem verdicts_of_not_isCycle (w : Watch ι σ) {m : Move ι σ} (hc : ¬ m.IsCycle)
    (hr : ¬ m.TakesReader) : w.verdicts [m] = [] := by
  obtain ⟨T, hT⟩ := aside_make w hc hr
  have hdone : w.done [m] = T := done_eq hT.toOnward
  rw [verdicts, hdone]
  exact verdictsIn_of_aside hT.aside

/-- A cycle ends in one of the ways in which cycles can end, and its verdict is about the entry
whose dispatch failed. -/
theorem judged_make (hj : w.site.journal.Indexed) (time : Nat) :
    Worker.Judged w.dispatcher w.supervisor time w.worker w.site
        (w.make (.tick .cycle time)).worker (w.make (.tick .cycle time)).site
        (w.verdicts [.tick .cycle time]) ∧
      (w.handed [.tick .cycle time]).filterMap Handing.failure?
        = (w.verdicts [.tick .cycle time]).filterMap Verdict.failure? := by
  obtain ⟨T, hT, hjudged, hfailures⟩ :=
    Worker.judged_cycle w.dispatcher w.supervisor time w.worker hj
  have hdone : w.done [.tick .cycle time] = T := done_eq hT
  rw [verdicts, handed, hdone]
  exact ⟨hjudged, hfailures⟩

/-- The verdicts that tell a place are about the entries at which a projection failed, by
induction on the moves. -/
theorem failures_run (hj : w.site.journal.Indexed) (hms : ∀ m ∈ ms, ¬ m.TakesReader) :
    (w.handed ms).filterMap Handing.failure? = (w.verdicts ms).filterMap Verdict.failure? := by
  induction ms using List.reverseRecOn with
  | nil =>
    rw [handed, verdicts, done_nil]
    rfl
  | append_singleton ms m ih =>
    have hbefore : ∀ m' ∈ ms, ¬ m'.TakesReader := fun m' hm' => hms m' (by simp [hm'])
    have hm : ¬ m.TakesReader := hms m (by simp)
    have hlast : ((w.run ms).handed [m]).filterMap Handing.failure?
        = ((w.run ms).verdicts [m]).filterMap Verdict.failure? := by
      by_cases hc : m.IsCycle
      · obtain ⟨time, rfl⟩ := hc.eq_tick
        exact (judged_make ((reads_run hj hbefore).journal.indexed hj) time).2
      · obtain ⟨T, hT⟩ := aside_make (w.run ms) hc hm
        rw [handed_of_aside hT, verdicts_of_not_isCycle _ hc hm]
        rfl
    rw [handed_append hj hbefore, verdicts_append, List.filterMap_append, List.filterMap_append,
      ih hbefore, hlast]

end Watch

end EventJournal
