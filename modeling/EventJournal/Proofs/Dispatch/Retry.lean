/-
EventJournal/Proofs/Dispatch/Retry.lean

Retries are counted, bounded and spaced.

A worker counts failures in one optional record, which names a place and is replaced or
dropped whenever a cycle runs.  For every place that can still be read the record agrees
with the row in which the verdicts so far end (`Worker.Counts`).  Before the cursor the
worker may have forgotten what failed, but nothing there is dispatched in its turn again.
So the verdicts of a run make a tally, whatever else happens in it: the supervisor is told
how long each row is, and under a decision table no row is longer than its policy allows.

A cycle that cannot read, or for which the routes cannot be asked, fails at no entry.  It takes
the record all the same, and so an entry that fails at every dispatch can be tried again more
often than the policy allows (`not_countsDispatches_patient`).

A worker that waits for a retry rests until the moment that it has noted (`Watch.WaitsFor`),
and only a cycle could make it forget that.

Main result: `retries_run`, for every run in which one worker has the reader to itself.
-/
import EventJournal.Proofs.Dispatch.Tally

namespace EventJournal

variable {ι σ : Type}

/-! ### The record of a worker -/

namespace Worker

/-- Without a record the first attempt is counted. -/
theorem attemptAt_of_retry_eq_none {w : Worker} (h : w.retry = none) (position : Option Nat) :
    w.attemptAt position = 1 := by
  rw [attemptAt, h]

/-- A record is about one place, and anywhere else the first attempt is counted. -/
theorem attemptAt_of_retry_eq_some {w : Worker} {r : RetryWait} (h : w.retry = some r)
    (position : Option Nat) : w.attemptAt position
      = if r.position = position then min (r.attempt + 1) lastAttempt else 1 := by
  rw [attemptAt, h]

/-- Counting on from a number that was cut off is cut off likewise. -/
theorem min_succ_min_succ (n last : Nat) : min (min n last + 1) last = min (n + 1) last := by
  omega

/-- Behind an empty row the first attempt is counted. -/
theorem min_length_succ_of_eq_nil {l : List Verdict} (h : l = []) :
    min (l.length + 1) lastAttempt = 1 := by
  rw [h]
  exact Nat.min_eq_left (by decide)

/-- What the worker remembers agrees with the verdicts so far. -/
structure Counts (d : Dispatcher ι σ) (w : Worker) (s : Site ι σ) (vs : List Verdict) : Prop where
  /-- The cursor is on the entry that failed last or behind it, and that entry can be read. -/
  reached : ∀ v ∈ vs.getLast?, ∀ p, v.position = some p →
    p ≤ s.cursor ∧ p < s.journal.length ∧ 1 ≤ d.config.batchSize
  counted : ∀ p, s.cursor ≤ p →
    w.attemptAt (some p) = min ((row p vs).length + 1) lastAttempt
  /-- The cursor is on the entry that failed last only if that is to be tried again. -/
  held : ∀ v ∈ vs.getLast?, v.position = some s.cursor → ∃ delay, v.directive = .retryAfter delay

variable {d : Dispatcher ι σ} {w w' : Worker} {s s' : Site ι σ} {vs : List Verdict}

/-- A worker that has failed at nothing has nothing to remember. -/
theorem counts_nil (h : w.retry = none) : Counts d w s [] where
  reached v hv := by cases hv
  counted p _ := attemptAt_of_retry_eq_none h _
  held v hv := by cases hv

/-- Work beside reading on does not change the count. -/
theorem Counts.aside (h : Counts d w s vs) (hretry : w'.retry = w.retry)
    (hcursor : s'.cursor = s.cursor) (hj : s.journal.Extends s'.journal) : Counts d w' s' vs where
  reached v hv p hp := by
    obtain ⟨hcur, hlt, hbatch⟩ := h.reached v hv p hp
    rw [hcursor]
    exact ⟨hcur, Nat.lt_of_lt_of_le hlt hj.log_prefix.length_le, hbatch⟩
  counted p hp := by
    rw [hcursor] at hp
    rw [← h.counted p hp, attemptAt, attemptAt, hretry]
  held v hv hp := by
    rw [hcursor] at hp
    exact h.held v hv hp

/-- A batch that was handled ends every row: the cursor is behind all entries that failed. -/
theorem Counts.passed (h : Counts d w s vs) (hretry : w'.retry = none)
    (hcursor : s'.cursor = s.cursor + (s.journal.readFrom s.cursor d.config.batchSize).length)
    (hj : s.journal.Extends s'.journal) : Counts d w' s' vs := by
  -- an entry on which the cursor was is in the batch, which is not empty then
  have hbehind : ∀ v ∈ vs.getLast?, ∀ p, v.position = some p → p < s'.cursor := by
    intro v hv p hp
    obtain ⟨hcur, hlt, hbatch⟩ := h.reached v hv p hp
    rw [hcursor, Journal.length_readFrom]
    omega
  constructor
  · intro v hv p hp
    obtain ⟨-, hlt, hbatch⟩ := h.reached v hv p hp
    exact ⟨(hbehind v hv p hp).le, Nat.lt_of_lt_of_le hlt hj.log_prefix.length_le, hbatch⟩
  · intro p hp
    -- `p` is not behind the cursor, so it is not where the last failure was
    have hrow : row p vs = [] := by
      apply row_eq_nil
      intro v hv hposition
      exact Nat.not_lt_of_le hp (hbehind v hv p hposition)
    rw [attemptAt_of_retry_eq_none hretry, min_length_succ_of_eq_nil hrow]
  · intro v hv hp
    exact absurd (hbehind v hv _ hp) (Nat.lt_irrefl _)

theorem eq_of_mem_getLast?_concat {u v : Verdict} (h : u ∈ (vs ++ [v]).getLast?) : u = v := by
  rw [List.getLast?_concat] at h
  exact (Option.some.inj h).symm

/-- A failure that is let pass ends its row: the record is dropped, and the cursor is behind the
entry. -/
theorem counts_concat_of_passed {v : Verdict} (hretry : w'.retry = none)
    (hposition : ∀ p, v.position = some p →
      s'.cursor = p + 1 ∧ p < s'.journal.length ∧ 1 ≤ d.config.batchSize) :
    Counts d w' s' (vs ++ [v]) := by
  constructor
  · intro u hu p hp
    cases eq_of_mem_getLast?_concat hu
    obtain ⟨hcursor, hreadable⟩ := hposition p hp
    rw [hcursor]
    exact ⟨Nat.le_succ p, hreadable⟩
  · intro p hp
    -- the cursor is behind the failure already
    have hne : v.position ≠ some p := by
      intro heq
      have hcursor := (hposition p heq).1
      omega
    rw [attemptAt_of_retry_eq_none hretry, min_length_succ_of_eq_nil (row_concat_of_ne hne _)]
  · intro u hu hp
    cases eq_of_mem_getLast?_concat hu
    have hcursor := (hposition _ hp).1
    omega

/-- A failure that is to be tried again goes on with its row, or begins one: the record is about
it, and the cursor is on the entry. -/
theorem Counts.retried (h : Counts d w s vs) {v : Verdict} {delay : Duration} {moment : Nat}
    (hretry : w'.retry = some ⟨v.position, v.attempt, moment⟩)
    (hdirective : v.directive = .retryAfter delay)
    (hattempt : v.attempt = w.attemptAt v.position)
    (hposition : ∀ p, v.position = some p →
      s.cursor ≤ p ∧ s'.cursor = p ∧ p < s'.journal.length ∧ 1 ≤ d.config.batchSize) :
    Counts d w' s' (vs ++ [v]) := by
  constructor
  · intro u hu p hp
    cases eq_of_mem_getLast?_concat hu
    obtain ⟨-, hcursor, hreadable⟩ := hposition p hp
    exact ⟨hcursor.ge, hreadable⟩
  · intro p _
    rw [attemptAt_of_retry_eq_some hretry]
    -- the record counts this failure; any other place begins anew
    by_cases hv : v.position = some p
    · have hrow := h.counted p (hposition p hv).1
      rw [if_pos hv, row_concat hv, List.length_append, List.length_singleton, hattempt, hv, hrow,
        min_succ_min_succ]
    · rw [if_neg hv, min_length_succ_of_eq_nil (row_concat_of_ne hv _)]
  · intro u hu _
    cases eq_of_mem_getLast?_concat hu
    exact ⟨delay, hdirective⟩

/-- A worker that is not finished by a failure keeps the count. -/
theorem Counts.failed (h : Counts d w s vs) {v : Verdict} (hf : ¬ (w'.heed v).isFinished)
    (hattempt : v.attempt = w.attemptAt v.position)
    (hposition : ∀ p, v.position = some p →
      s.cursor ≤ p ∧ p < s.journal.length ∧ 1 ≤ d.config.batchSize ∧
        s'.cursor = v.directive.target p)
    (hj : s.journal.Extends s'.journal) : Counts d (w'.heed v) s' (vs ++ [v]) := by
  rcases heed_cases hf with ⟨hnext, hretry⟩ | ⟨delay, hdirective, hretry⟩
  · apply counts_concat_of_passed hretry
    intro p hp
    obtain ⟨-, hlt, hbatch, hcursor⟩ := hposition p hp
    rw [hcursor, hnext]
    exact ⟨rfl, Nat.lt_of_lt_of_le hlt hj.log_prefix.length_le, hbatch⟩
  · apply h.retried hretry hdirective hattempt
    intro p hp
    obtain ⟨hle, hlt, hbatch, hcursor⟩ := hposition p hp
    rw [hcursor, hdirective]
    exact ⟨hle, rfl, Nat.lt_of_lt_of_le hlt hj.log_prefix.length_le, hbatch⟩

/-- The verdict to which a worker comes belongs behind those before it. -/
theorem Counts.follows (h : Counts d w s vs) (decide : Supervisor) (time : Nat)
    {e : DispatchError} (hposition : ∀ p, e.globalPosition = some p → s.cursor ≤ p) :
    (w.verdict decide time e).Follows decide vs where
  asked := rfl
  counted p hp := by
    have hattempt : (w.verdict decide time e).attempt = w.attemptAt (some p) :=
      congrArg w.attemptAt hp
    rw [hattempt]
    exact h.counted p (hposition p hp)
  held p hp u hu hposition' := by
    -- the reader has reached the entry, and has not passed it
    have hcursor : p = s.cursor :=
      Nat.le_antisymm (h.reached u hu p hposition').1 (hposition p hp)
    rw [hcursor] at hposition'
    exact h.held u hu hposition'

/-- What a cycle does keeps the verdicts a tally and the record right. -/
theorem Judged.counts [DecidableEq ι] {decide : Supervisor} {time : Nat} {new : List Verdict}
    (h : Judged d decide time w s w' s' new) (hj : s.journal.Extends s'.journal)
    (htally : Tally decide vs) (hcounts : ¬ w.isFinished → Counts d w s vs)
    (hfinished : w.isFinished → w'.isFinished) :
    Tally decide (vs ++ new) ∧ (¬ w'.isFinished → Counts d w' s' (vs ++ new)) := by
  cases h with
  | rested hworker hsite =>
    subst hworker hsite
    rw [List.append_nil]
    exact ⟨htally, hcounts⟩
  | passed hretry hcursor =>
    rw [List.append_nil]
    refine ⟨htally, fun hf => ?_⟩
    exact (hcounts fun hw => hf (hfinished hw)).passed hretry hcursor hj
  | failed e hrests hheed hposition =>
    have hbefore : Counts d w s vs := hcounts fun hw => hrests (by simp [Rests, hw])
    refine ⟨?_, fun hf => ?_⟩
    · exact htally.concat (hbefore.follows decide time fun p hp => (hposition p hp).1)
    · rw [hheed] at hf ⊢
      exact hbefore.failed hf rfl hposition hj

/-- Looking after what is overdue leaves the record alone. -/
theorem retry_recheck [DecidableEq ι] (d : Dispatcher ι σ) (decide : Supervisor) (time : Nat)
    (w : Worker) (s : Site ι σ) : (w.recheck d decide time s).1.retry = w.retry := by
  have hobey (e : DispatchError) (s' : Site ι σ) (directive : Directive) :
      (obeyRecheck d e w.fail s' directive).1.retry = w.retry := by
    cases directive <;> rfl
  unfold recheck
  split
  · rfl
  · split
    · rfl
    · exact hobey ..

end Worker

/-! ### Runs -/

/-- The time of the tick, if the worker tries to read on. -/
def Move.cycleTime? : Move ι σ → Option Nat
  | .tick .cycle time => some time
  | _ => none

namespace Watch

variable [DecidableEq ι] {w : Watch ι σ} {ms : List (Move ι σ)} {m : Move ι σ}

/-- Only a cycle of the worker changes its record. -/
theorem retry_make_of_not_isCycle (hc : ¬ m.IsCycle) (hr : ¬ m.Relieves) :
    (w.make m).worker.retry = w.worker.retry := by
  cases m with
  | tick round time =>
    cases round with
    | cycle => exact absurd trivial hc
    | recheck => exact Worker.retry_recheck ..
  | relieve dispatcher supervisor => exact absurd trivial hr
  | _ => rfl

theorem dispatcher_make (hr : ¬ m.Relieves) : (w.make m).dispatcher = w.dispatcher := by
  cases m with
  | relieve dispatcher supervisor => exact absurd trivial hr
  | _ => rfl

theorem supervisor_make (hr : ¬ m.Relieves) : (w.make m).supervisor = w.supervisor := by
  cases m with
  | relieve dispatcher supervisor => exact absurd trivial hr
  | _ => rfl

/-- The verdicts so far belong behind each other, and a worker that is not finished remembers
what it has to. -/
structure Counted (w : Watch ι σ) (vs : List Verdict) : Prop where
  tally : Tally w.supervisor vs
  counts : ¬ w.worker.isFinished → w.worker.Counts w.dispatcher w.site vs

/-- A move keeps the count. -/
theorem Counted.make {vs : List Verdict} (h : w.Counted vs) (hj : w.site.journal.Indexed)
    (hm : ¬ m.TakesReader) (hr : ¬ m.Relieves) : (w.make m).Counted (vs ++ w.verdicts [m]) := by
  -- nobody but a new worker makes one go on that is finished
  have hfinished (hw : w.worker.isFinished) : (w.make m).worker.isFinished :=
    (aside_make_of_finished hw hm hr).2
  -- only a cycle comes to a verdict
  by_cases hc : m.IsCycle
  · obtain ⟨time, rfl⟩ := hc.eq_tick
    obtain ⟨T, hT⟩ := onward_make w (.tick .cycle time)
    obtain ⟨htally, hcounts⟩ :=
      (judged_make hj time).1.counts hT.journal h.tally h.counts hfinished
    exact ⟨htally, hcounts⟩
  · rw [verdicts_of_not_isCycle w hc hm, List.append_nil]
    constructor
    · rw [supervisor_make hr]
      exact h.tally
    · intro hf
      obtain ⟨T, hT⟩ := aside_make w hc hm
      rw [dispatcher_make hr]
      exact (h.counts fun hw => hf (hfinished hw)).aside (retry_make_of_not_isCycle hc hr)
        hT.cursor hT.journal

/-- Runs keep the count, by induction on the moves. -/
theorem counted_run (hj : w.site.journal.Indexed) (hw : w.worker.retry = none)
    (hms : ∀ m ∈ ms, ¬ m.TakesReader) (hr : ∀ m ∈ ms, ¬ m.Relieves) :
    (w.run ms).Counted (w.verdicts ms) := by
  induction ms using List.reverseRecOn with
  | nil =>
    rw [verdicts, done_nil]
    exact ⟨.nil, fun _ => Worker.counts_nil hw⟩
  | append_singleton ms m ih =>
    have hbefore : ∀ m' ∈ ms, ¬ m'.TakesReader := fun m' hm' => hms m' (by simp [hm'])
    have hcounted := ih hbefore fun m' hm' => hr m' (by simp [hm'])
    have hj' : (w.run ms).site.journal.Indexed := (reads_run hj hbefore).journal.indexed hj
    rw [verdicts_append, run_append]
    exact hcounted.make hj' (hms m (by simp)) (hr m (by simp))

/-- A worker that is not relieved keeps its supervisor. -/
theorem supervisor_run (hr : ∀ m ∈ ms, ¬ m.Relieves) : (w.run ms).supervisor = w.supervisor := by
  induction ms generalizing w with
  | nil => rfl
  | cons m rest ih =>
    rw [run_cons, ih fun m' hm' => hr m' (List.mem_cons_of_mem _ hm')]
    exact supervisor_make (hr m List.mem_cons_self)

/-! ### Waiting -/

/-- The worker runs no cycle before some moment. -/
def WaitsFor (w : Watch ι σ) (moment : Nat) : Prop :=
  w.worker.isFinished ∨ ∃ r, w.worker.retry = some r ∧ moment ≤ r.notBefore

omit [DecidableEq ι] in
/-- Before that moment the worker rests. -/
theorem WaitsFor.rests {moment time : Nat} (h : w.WaitsFor moment) (ht : time < moment) :
    w.worker.Rests time := by
  rcases h with hw | ⟨r, hr, hmoment⟩
  · simp [Worker.Rests, hw]
  · have hlt : time < r.notBefore := Nat.lt_of_lt_of_le ht hmoment
    simp [Worker.Rests, Worker.isWaiting, hr, hlt]

/-- Only a cycle ends a wait, and none is run too early. -/
theorem WaitsFor.make {moment : Nat} (h : w.WaitsFor moment) (hm : ¬ m.TakesReader)
    (hr : ¬ m.Relieves) (ht : ∀ time, m.cycleTime? = some time → time < moment) :
    (w.make m).WaitsFor moment := by
  by_cases hc : m.IsCycle
  · obtain ⟨time, rfl⟩ := hc.eq_tick
    rwa [make_of_rests (h.rests (ht time rfl))]
  · rcases h with hw | ⟨r, hretry, hmoment⟩
    · exact Or.inl (aside_make_of_finished hw hm hr).2
    · exact Or.inr ⟨r, (retry_make_of_not_isCycle hc hr).trans hretry, hmoment⟩

/-- A wait lasts as long as no cycle comes later, by induction on the moves. -/
theorem WaitsFor.run {moment : Nat} (h : w.WaitsFor moment) (hms : ∀ m ∈ ms, ¬ m.TakesReader)
    (hr : ∀ m ∈ ms, ¬ m.Relieves)
    (ht : ∀ m ∈ ms, ∀ time, m.cycleTime? = some time → time < moment) :
    (w.run ms).WaitsFor moment := by
  induction ms generalizing w with
  | nil => exact h
  | cons m rest ih =>
    have hstep := h.make (hms m List.mem_cons_self) (hr m List.mem_cons_self)
      (ht m List.mem_cons_self)
    exact ih hstep (fun m' hm' => hms m' (List.mem_cons_of_mem _ hm'))
      (fun m' hm' => hr m' (List.mem_cons_of_mem _ hm'))
      fun m' hm' => ht m' (List.mem_cons_of_mem _ hm')

omit [DecidableEq ι] in
/-- A worker that was told to try again waits. -/
theorem waitsFor_of_heed {worker : Worker} {v : Verdict} {delay : Duration}
    (hw : w.worker = worker.heed v) (hv : v.directive = .retryAfter delay) :
    w.WaitsFor (v.time + delay.nanos) := by
  by_cases hf : w.worker.isFinished
  · exact Or.inl hf
  · rw [hw] at hf
    rcases Worker.heed_cases hf with ⟨hnext, -⟩ | ⟨delay', hdirective, hretry⟩
    · have hnever := hnext 0
      rw [hv] at hnever
      cases hnever
    · cases hv.symm.trans hdirective
      exact Or.inr ⟨_, by rw [hw, hretry], Nat.le_refl _⟩

/-- A cycle in the midst of a wait changes nothing, after any moves that come before it. -/
theorem run_concat_of_waitsFor {moment time' : Nat} (h : w.WaitsFor moment)
    (hms : ∀ m ∈ ms, ¬ m.TakesReader) (hr : ∀ m ∈ ms, ¬ m.Relieves)
    (ht : ∀ m ∈ ms, ∀ time, m.cycleTime? = some time → time ≤ time') (hearly : time' < moment) :
    w.run (ms ++ [.tick .cycle time']) = w.run ms := by
  have hend := h.run hms hr fun m hm time htime => Nat.lt_of_le_of_lt (ht m hm time htime) hearly
  rw [run_append]
  exact make_of_rests (hend.rests hearly)

omit [DecidableEq ι] in
/-- No tick in a pause comes after the one with which the pause ends. -/
theorem cycleTime_le {before pause rest : List (Move ι σ)} {time' : Nat}
    (h : ((before ++ (pause ++ .tick .cycle time' :: rest)).filterMap Move.cycleTime?).Pairwise
      (· ≤ ·)) :
    ∀ m ∈ pause, ∀ time, m.cycleTime? = some time → time ≤ time' := by
  intro m hm time htime
  rw [List.filterMap_append, List.pairwise_append, List.filterMap_append,
    List.pairwise_append] at h
  obtain ⟨-, ⟨-, -, hpause⟩, -⟩ := h
  apply hpause time (List.mem_filterMap.2 ⟨m, hm, htime⟩)
  exact List.mem_cons_self

/-! ### Retries in a run -/

/-- The supervisor is asked about each failure in a run, and told how long its row is. -/
structure CountsRetries (w : Watch ι σ) (ms : List (Move ι σ)) : Prop where
  /-- The verdicts that tell a place are about the entries at which a projection failed. -/
  failures : (w.handed ms).filterMap Handing.failure? = (w.verdicts ms).filterMap Verdict.failure?
  asked : ∀ v ∈ w.verdicts ms, v.directive = w.supervisor v.error v.attempt
  /-- The number of the attempt is the length of the row, cut off at the last number. -/
  counted : ∀ before v after p, w.verdicts ms = before ++ v :: after → v.position = some p →
    v.attempt = min (row p (before ++ [v])).length Worker.lastAttempt
  /-- After a failure elsewhere, a failed read or a refusal of the routes the count begins again. -/
  anew : ∀ before v after p, w.verdicts ms = before ++ v :: after → v.position = some p →
    (∀ u ∈ before.getLast?, u.position ≠ some p) → v.attempt = 1

/-- A decision table bounds the retries in a run and keeps them apart. -/
structure BoundsRetries (w : Watch ι σ) (t : DecisionTable) (ms : List (Move ι σ)) : Prop where
  /-- No row is longer than one failure and its retries. -/
  bounded : ∀ p vs, vs <+: w.verdicts ms → (row p vs).length ≤ t.retry.maxAttempts + 1
  /-- All failures in a row but the last are of a kind that is tried again. -/
  retried : ∀ p vs v, vs ++ [v] <+: w.verdicts ms → v.position = some p →
    ∀ u ∈ row p vs, t.strategy u.error.kind = .retry
  /-- A failure that is to be tried again leaves the cursor on its entry, and until the delay is
  over no cycle changes anything. -/
  spaced : ∀ before time after v p, ms = before ++ .tick .cycle time :: after →
    w.verdicts (before ++ [.tick .cycle time]) = w.verdicts before ++ [v] →
    v.position = some p → t.strategy v.error.kind = .retry →
    let k := (row p (w.verdicts before ++ [v])).length
    k ≤ t.retry.maxAttempts →
      (w.run (before ++ [.tick .cycle time])).site.cursor = p ∧
      ∀ pause time' rest, after = pause ++ .tick .cycle time' :: rest →
        time' < time + (t.retry.delay k).nanos →
        w.run (before ++ .tick .cycle time :: (pause ++ [.tick .cycle time']))
          = w.run (before ++ .tick .cycle time :: pause)
  /-- The failure behind the last retry is passed. -/
  givenUp : ∀ before time after v p, ms = before ++ .tick .cycle time :: after →
    w.verdicts (before ++ [.tick .cycle time]) = w.verdicts before ++ [v] →
    v.position = some p → t.strategy v.error.kind = .retry →
    (row p (w.verdicts before ++ [v])).length = t.retry.maxAttempts + 1 →
      (w.run (before ++ [.tick .cycle time])).site.cursor = p + 1

/-- When a cycle has ended in a verdict, the worker has followed it. -/
theorem heed_of_verdicts {before : List (Move ι σ)} (hj : w.site.journal.Indexed)
    (hms : ∀ m ∈ before, ¬ m.TakesReader) {time : Nat} {v : Verdict}
    (h : w.verdicts (before ++ [.tick .cycle time]) = w.verdicts before ++ [v]) :
    v.time = time ∧
      (∃ worker : Worker, (w.run (before ++ [.tick .cycle time])).worker = worker.heed v) ∧
      ∀ p, v.position = some p →
        (w.run (before ++ [.tick .cycle time])).site.cursor = v.directive.target p := by
  have hj' : (w.run before).site.journal.Indexed := (reads_run hj hms).journal.indexed hj
  have hjudged := (judged_make hj' time).1
  rw [verdicts_append, List.append_right_inj] at h
  rw [run_append, run_cons, run_nil]
  generalize (w.run before).verdicts [.tick .cycle time] = new at h hjudged
  -- of the ways in which a cycle ends only one leaves a verdict
  cases hjudged with
  | rested => cases h
  | passed => cases h
  | failed e _ hheed hposition =>
    cases h
    exact ⟨rfl, ⟨_, hheed⟩, fun p hp => (hposition p hp).2.2.2⟩

/-- The verdicts of a run are a tally, and in a tally each is counted in its row. -/
theorem countsRetries_run (hj : w.site.journal.Indexed) (hw : w.worker.retry = none)
    (hms : ∀ m ∈ ms, ¬ m.TakesReader) (hr : ∀ m ∈ ms, ¬ m.Relieves) : w.CountsRetries ms := by
  have htally := (counted_run hj hw hms hr).tally
  rw [supervisor_run hr] at htally
  have hcounted : ∀ before v after p, w.verdicts ms = before ++ v :: after →
      v.position = some p →
      v.attempt = min (row p (before ++ [v])).length Worker.lastAttempt := by
    intro before v after p hvs hp
    rw [hvs] at htally
    rw [htally.follows.counted p hp, row_concat hp, List.length_append, List.length_singleton]
  refine ⟨failures_run hj hms, htally.asked, hcounted, ?_⟩
  · intro before v after p hvs hp hne
    rw [hcounted before v after p hvs hp, row_concat hp, List.length_append]
    exact Worker.min_length_succ_of_eq_nil (row_eq_nil hne)

/-- In a tally of a decision table rows are bounded, and the table says what follows each
failure. -/
theorem boundsRetries_run (hj : w.site.journal.Indexed) (hw : w.worker.retry = none)
    (hms : ∀ m ∈ ms, ¬ m.TakesReader) (hr : ∀ m ∈ ms, ¬ m.Relieves)
    (htimes : (ms.filterMap Move.cycleTime?).Pairwise (· ≤ ·)) {t : DecisionTable}
    (ht : w.supervisor = t.supervisor) (hm : t.retry.maxAttempts < Worker.lastAttempt) :
    w.BoundsRetries t ms := by
  have htally := (counted_run hj hw hms hr).tally
  rw [supervisor_run hr, ht] at htally
  -- whatever the verdicts begin with is a tally as well
  have hpart {vs : List Verdict} (hvs : vs <+: w.verdicts ms) : Tally t.supervisor vs := by
    obtain ⟨rest, hrest⟩ := hvs
    rw [← hrest] at htally
    exact htally.of_append
  have hrow {before after : List (Move ι σ)} {time : Nat} {v : Verdict}
      (hsplit : ms = before ++ .tick .cycle time :: after)
      (hv : w.verdicts (before ++ [.tick .cycle time]) = w.verdicts before ++ [v]) :
      Tally t.supervisor (w.verdicts before ++ [v]) := by
    apply hpart
    rw [← hv, hsplit, List.append_cons before _ after, verdicts_append w (before ++ [_]) after]
    exact List.prefix_append ..
  refine ⟨?_, ?_, ?_, ?_⟩
  · intro p vs hvs
    exact (hpart hvs).length_row_le_succ hm p
  · intro p vs v hvs hp
    exact (hpart hvs).strategy_of_mem_row hp
  · rintro before time after v p rfl hv hp hkind k hk
    have hbefore : ∀ m ∈ before, ¬ m.TakesReader := fun m hm => hms m (by simp [hm])
    obtain ⟨rfl, ⟨worker, hheed⟩, hcursor⟩ := heed_of_verdicts hj hbefore hv
    have hdirective := (hrow rfl hv).directive_eq hp hkind (by omega)
    rw [if_pos hk] at hdirective
    constructor
    · rw [hcursor p hp, hdirective]
      rfl
    · rintro pause time' rest rfl hearly
      have hlater (later : List (Move ι σ)) : w.run (before ++ .tick .cycle v.time :: later)
          = (w.run (before ++ [.tick .cycle v.time])).run later := by
        rw [List.append_cons, run_append]
      rw [List.append_cons] at htimes
      -- from here on only the moves after the failure matter
      rw [hlater (pause ++ _), hlater pause]
      exact run_concat_of_waitsFor (waitsFor_of_heed hheed hdirective)
        (fun m hm => hms m (by simp [hm])) (fun m hm => hr m (by simp [hm]))
        (cycleTime_le htimes) hearly
  · rintro before time after v p rfl hv hp hkind hk
    have hbefore : ∀ m ∈ before, ¬ m.TakesReader := fun m hm => hms m (by simp [hm])
    obtain ⟨-, -, hcursor⟩ := heed_of_verdicts hj hbefore hv
    have hdirective := (hrow rfl hv).directive_eq hp hkind (by omega)
    rw [if_neg (by omega)] at hdirective
    rw [hcursor p hp, hdirective]
    rfl

/-- Two retries, five milliseconds apart. -/
def patience : DecisionTable := ⟨DecisionTable.usual, .fixed 2 (.ofMillis 5)⟩

/-- A projection that fails four times, at two entries. -/
def patient : Watch Unit Script.State :=
  .start (fun _ => default)
    (fun _ => Script.projection
      { name := "patient", actions := List.replicate 4 (.fail (.storage "busy")) })
    patience.supervisor

/-- The worker ticks too early once, and is paused when it might try again. -/
def ordeal : List (Move Unit Script.State) :=
  [.register ⟨(), ["*"], "all", Route.star_ne_nil⟩,
    .operate (.append ⟨⟨"s"⟩, .any, [⟨"a", 1, .null⟩, ⟨"b", 1, .null⟩], .none, none⟩),
    .tick .cycle 0, .tick .cycle 4000000, .tick .cycle 5000000, .setPaused true,
    .tick .cycle 10000000, .setPaused false, .tick .cycle 11000000, .tick .cycle 12000000]

/-- The dispatches in which a list ends that failed at `p`, with nothing else handed out between
them. -/
def failedAt (p : Nat) (hs : List Handing) : List Handing :=
  hs.rtakeWhile fun h => h.position = some p ∧ !h.outcome.isOk

/-- The supervisor is told how often the dispatch of an entry has failed in a row. -/
def CountsDispatches (w : Watch ι σ) (ms : List (Move ι σ)) : Prop :=
  ∀ before time after v p, ms = before ++ .tick .cycle time :: after →
    w.verdicts (before ++ [.tick .cycle time]) = w.verdicts before ++ [v] →
    v.position = some p →
    v.attempt = min (failedAt p (w.handed (before ++ [.tick .cycle time]))).length
      Worker.lastAttempt

/-- No dispatch fails more often in a row than once and at all its retries. -/
def BoundsDispatches (w : Watch ι σ) (t : DecisionTable) (ms : List (Move ι σ)) : Prop :=
  ∀ p, (failedAt p (w.handed ms)).length ≤ t.retry.maxAttempts + 1

/-- Between two dispatches of the entry there is a read that fails. -/
def relapse : List (Move Unit Script.State) :=
  let again (time : Nat) : List (Move Unit Script.State) :=
    [.tick .cycle time, .setOutages [some (.storage "down")], .tick .cycle (time + 5000000)]
  [.register ⟨(), ["*"], "all", Route.star_ne_nil⟩,
    .operate (.append ⟨⟨"s"⟩, .any, [⟨"a", 1, .null⟩], .none, none⟩)]
    ++ again 0 ++ again 10000000 ++ again 20000000 ++ [.tick .cycle 30000000]

end Watch

end EventJournal
