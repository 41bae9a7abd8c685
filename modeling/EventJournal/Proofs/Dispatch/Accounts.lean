/-
EventJournal/Proofs/Dispatch/Accounts.lean

What the counters of a worker account for.

A cycle and a round over what is overdue count while they are under way, and a worker adds
their counts to its own when they end well.  If a dispatch fails, the counts of the round go
with it: what was dispatched before the failure was dispatched, but it is in no counter
(`not_countsAll_brokenDay`).  The failure itself is counted, and so is a failure to read.

Stretches of a trace are added up in a `Ledger`.

Main result: in any run of one worker, what was done is what was counted and what was lost in
rounds that broke off (`keepsBooks_run`).
-/
import EventJournal.Proofs.Dispatch.Identity
import EventJournal.Proofs.Dispatch.Order
import EventJournal.Proofs.Dispatch.Restart
import Mathlib.Algebra.BigOperators.Group.List.Basic

namespace EventJournal

variable {ι σ : Type}

/-! ### Ledgers -/

/-- What a stretch of a trace adds up to. -/
@[ext] structure Ledger where
  /-- Entries that somebody got. -/
  dispatched : Nat := 0
  /-- Entries that nobody got. -/
  unrouted : Nat := 0
  /-- Overdue projectables that somebody got again. -/
  redispatched : Nat := 0
  /-- Dispatches of either kind that failed. -/
  failures : Nat := 0
  /-- Attempts at reading that failed. -/
  unread : Nat := 0
deriving DecidableEq, Repr

namespace Ledger

instance : Zero Ledger := ⟨{}⟩

instance : Add Ledger where
  add a b :=
    { dispatched := a.dispatched + b.dispatched
      unrouted := a.unrouted + b.unrouted
      redispatched := a.redispatched + b.redispatched
      failures := a.failures + b.failures
      unread := a.unread + b.unread }

instance : AddCommMonoid Ledger where
  add_assoc _ _ _ := by ext <;> exact Nat.add_assoc ..
  zero_add _ := by ext <;> exact Nat.zero_add _
  add_zero _ := rfl
  add_comm _ _ := by ext <;> exact Nat.add_comm ..
  nsmul := nsmulRec

variable (a b : Ledger)

@[simp] theorem dispatched_add : (a + b).dispatched = a.dispatched + b.dispatched := rfl

@[simp] theorem unrouted_add : (a + b).unrouted = a.unrouted + b.unrouted := rfl

@[simp] theorem redispatched_add : (a + b).redispatched = a.redispatched + b.redispatched := rfl

@[simp] theorem failures_add : (a + b).failures = a.failures + b.failures := rfl

@[simp] theorem unread_add : (a + b).unread = a.unread + b.unread := rfl

@[simp] theorem dispatched_zero : (0 : Ledger).dispatched = 0 := rfl

@[simp] theorem unrouted_zero : (0 : Ledger).unrouted = 0 := rfl

@[simp] theorem redispatched_zero : (0 : Ledger).redispatched = 0 := rfl

@[simp] theorem failures_zero : (0 : Ledger).failures = 0 := rfl

@[simp] theorem unread_zero : (0 : Ledger).unread = 0 := rfl

variable {a b}

/-- The same beginning can be taken off two ledgers. -/
theorem eq_of_add_eq {c : Ledger} (h : c + a = c + b) : a = b := by
  simp only [Ledger.ext_iff, dispatched_add, unrouted_add, redispatched_add, failures_add,
    unread_add] at h
  ext <;> omega

end Ledger

/-- What one thing that was done adds up to. -/
def Occurrence.ledger : Occurrence ι → Ledger
  | .dispatched _ (.ok n) => if n = 0 then { unrouted := 1 } else { dispatched := 1 }
  | .redispatched _ (.ok n) => if 0 < n then { redispatched := 1 } else 0
  | .dispatched _ (.error _) | .redispatched _ (.error _) => { failures := 1 }
  | .decided _ _ (.journal _) _ _ => { unread := 1 }
  | _ => 0

theorem Occurrence.ledger_dispatched (p : Projectable) (n : Nat) :
    (dispatched p (.ok n) : Occurrence ι).ledger
      = if n = 0 then { unrouted := 1 } else { dispatched := 1 } := rfl

theorem Occurrence.ledger_redispatched (p : Projectable) (n : Nat) :
    (redispatched p (.ok n) : Occurrence ι).ledger
      = if 0 < n then { redispatched := 1 } else 0 := rfl

/-- A decision adds up to something only if it is about a failure to read. -/
theorem Occurrence.ledger_decided {e : DispatchError} (he : ∀ source, e ≠ .journal source)
    (round : Round) (time attempt : Nat) (directive : Directive) :
    (decided round time e attempt directive : Occurrence ι).ledger = 0 := by
  cases e with
  | journal source => exact absurd rfl (he source)
  | _ => rfl

def ledgerOf (T : List (Occurrence ι)) : Ledger := (T.map Occurrence.ledger).sum

theorem ledgerOf_append (T U : List (Occurrence ι)) :
    ledgerOf (T ++ U) = ledgerOf T + ledgerOf U := by
  rw [ledgerOf, List.map_append, List.sum_append]
  rfl

theorem ledgerOf_singleton (o : Occurrence ι) : ledgerOf [o] = o.ledger := add_zero _

theorem ledgerOf_note (s : Site ι σ) (o : Occurrence ι) :
    ledgerOf (s.note o).trace = ledgerOf s.trace + o.ledger := by
  rw [Site.note, ledgerOf_append, ledgerOf_singleton]

/-- A stretch of which nothing is counted adds up to nothing. -/
theorem ledgerOf_eq_zero {T : List (Occurrence ι)} (h : ∀ o ∈ T, o.ledger = 0) :
    ledgerOf T = 0 := by
  refine List.sum_eq_zero fun l hl => ?_
  obtain ⟨o, ho, rfl⟩ := List.mem_map.1 hl
  exact h o ho

/-! ### Counting -/

/-- An outcome and what was added to the ledger on the way to it.  A failure to read is added
only when the supervisor is asked about it. -/
inductive Booked {α : Type} (Counts : α → Ledger → Prop) (l : Ledger) :
    Except DispatchError α → Prop
  | ok (a : α) : Counts a l → l.failures = 0 → l.unread = 0 → Booked Counts l (.ok a)
  | failed (e : DispatchError) : (∀ source, e ≠ .journal source) → l.failures = 1 →
      l.unread = 0 → Booked Counts l (.error e)
  | unread (source : JournalError) : l.failures = 0 → l.unread = 0 →
      Booked Counts l (.error (.journal source))

/-- The step that was noted as `o` in front. -/
theorem Booked.note {α : Type} {Counts Counts' : α → Ledger → Prop} {l : Ledger}
    {outcome : Except DispatchError α} (h : Booked Counts l outcome) {o : Occurrence ι}
    (hfailures : o.ledger.failures = 0) (hunread : o.ledger.unread = 0)
    (hcounts : ∀ a, Counts a l → Counts' a (o.ledger + l)) :
    Booked Counts' (o.ledger + l) outcome := by
  have hf : (o.ledger + l).failures = l.failures := by
    rw [Ledger.failures_add, hfailures, Nat.zero_add]
  have hu : (o.ledger + l).unread = l.unread := by
    rw [Ledger.unread_add, hunread, Nat.zero_add]
  cases h with
  | ok a ha h₁ h₂ => exact .ok a (hcounts a ha) (hf.trans h₁) (hu.trans h₂)
  | failed e he h₁ h₂ => exact .failed e he (hf.trans h₁) (hu.trans h₂)
  | unread source h₁ h₂ => exact .unread source (hf.trans h₁) (hu.trans h₂)

/-- From the report `r` on, a batch has counted this. -/
def CountsEntries (r r' : CycleCount) (l : Ledger) : Prop :=
  r'.dispatched = r.dispatched + l.dispatched ∧ r'.unrouted = r.unrouted + l.unrouted ∧
    l.redispatched = 0

/-- What an entry adds to the report it adds to the ledger. -/
theorem CountsEntries.count {r r' : CycleCount} {l : Ledger} {n : Nat}
    (h : CountsEntries (r.count n) r' l) (p : Projectable) :
    CountsEntries r r' ((Occurrence.dispatched p (.ok n) : Occurrence ι).ledger + l) := by
  obtain ⟨hdispatched, hunrouted, hredispatched⟩ := h
  unfold CycleCount.count at hdispatched hunrouted
  unfold CountsEntries
  rw [Occurrence.ledger_dispatched]
  by_cases hn : n = 0
  all_goals
    simp only [hn, if_true, if_false] at hdispatched hunrouted ⊢
    simp [hdispatched, hunrouted, hredispatched, Nat.add_assoc]

/-- From the count `done` on, a round over overdue projectables has counted this. -/
def CountsAgain (done n : Nat) (l : Ledger) : Prop :=
  n = done + l.redispatched ∧ l.dispatched = 0 ∧ l.unrouted = 0

/-- A projectable that nobody gets again is not counted, in the round as in the ledger. -/
theorem CountsAgain.count {done n m : Nat} {l : Ledger}
    (h : CountsAgain (if 0 < n then done + 1 else done) m l) (p : Projectable) :
    CountsAgain done m ((Occurrence.redispatched p (.ok n) : Occurrence ι).ledger + l) := by
  obtain ⟨hm, hdispatched, hunrouted⟩ := h
  unfold CountsAgain
  rw [Occurrence.ledger_redispatched]
  by_cases hn : 0 < n
  all_goals
    simp only [hn, if_true, if_false] at hm ⊢
    simp [hm, hdispatched, hunrouted, Nat.add_assoc]

/-- Whatever a supervisor is asked about makes one failure, once the decision is noted. -/
theorem Booked.one {α : Type} {Counts : α → Ledger → Prop} {l : Ledger} {e : DispatchError}
    (h : Booked Counts l (.error e)) (round : Round) (time attempt : Nat)
    (directive : Directive) :
    l.failures + l.unread
      + (Occurrence.decided (ι := ι) round time e attempt directive).ledger.unread = 1 := by
  cases h with
  | failed _ hjournal hfailures hunread =>
    rw [hfailures, hunread, Occurrence.ledger_decided hjournal]
    rfl
  | unread source hfailures hunread =>
    rw [hfailures, hunread]
    rfl

/-! ### The counts of a dispatcher -/

namespace Dispatcher

variable [DecidableEq ι]

/-- Handing out a projectable adds up to nothing until its outcome is noted. -/
theorem ledgerOf_dispatch (d : Dispatcher ι σ) (p : Projectable) (s : Site ι σ) :
    ledgerOf (d.dispatch p s).2.trace = ledgerOf s.trace := by
  rcases d.dispatch_cases p s with ⟨-, hrefused⟩ | ⟨-, hnone⟩ | ⟨T, -, hT⟩
  · rw [hrefused]
  · rw [hnone]
    rfl
  · have hzero : ledgerOf T = 0 := by
      refine ledgerOf_eq_zero fun o ho => ?_
      obtain ⟨i, confirmed, outcome, rfl⟩ := hT.invoked o ho
      rfl
    rw [hT.trace, ledgerOf_append, hzero]
    exact add_zero _

/-- Projections and routes make a dispatch fail, the journal does not. -/
theorem ne_journal_of_dispatch {d : Dispatcher ι σ} {p : Projectable} {s : Site ι σ}
    {e : DispatchError} (h : (d.dispatch p s).1 = .error e) (source : JournalError) :
    e ≠ .journal source := by
  rcases exists_of_dispatch_error (Prod.ext h rfl) with ⟨-, rfl, -⟩ | ⟨_, -, i, -, source', rfl⟩
  · exact nofun
  · exact nofun

/-- A batch counts its entries up to the first failure, by induction on what is left of it. -/
theorem booked_dispatchEach (d : Dispatcher ι σ) (es : List Entry) (r : CycleCount)
    (s : Site ι σ) :
    ∃ l, ledgerOf (d.dispatchEach es r s).2.trace = ledgerOf s.trace + l ∧
      Booked (CountsEntries r) l (d.dispatchEach es r s).1 := by
  induction es generalizing r s with
  | nil => exact ⟨0, (add_zero _).symm, .ok r ⟨rfl, rfl, rfl⟩ rfl rfl⟩
  | cons e rest ih =>
    have hdispatch := ledgerOf_dispatch d (.ofEntry e) s
    have hjournal (err : DispatchError) :
        (d.dispatch (.ofEntry e) s).1 = .error err → ∀ source, err ≠ .journal source :=
      ne_journal_of_dispatch
    rw [dispatchEach]
    split <;> rename_i heq <;> rw [heq] at hdispatch hjournal
    · rename_i err s'
      refine ⟨{ failures := 1 }, ?_, .failed err (hjournal err rfl) rfl rfl⟩
      exact (ledgerOf_note s' _).trans (congrArg (· + _) hdispatch)
    · rename_i n s'
      obtain ⟨l, hl, hbooked⟩ := ih (r.count n) (s'.note (.dispatched (.ofEntry e) (.ok n)))
      -- an entry that is dispatched makes no failure
      have hquiet : (Occurrence.dispatched (.ofEntry e) (.ok n) : Occurrence ι).ledger.failures = 0
          ∧ (Occurrence.dispatched (.ofEntry e) (.ok n) : Occurrence ι).ledger.unread = 0 := by
        rw [Occurrence.ledger_dispatched]
        split <;> exact ⟨rfl, rfl⟩
      refine ⟨_, ?_, hbooked.note hquiet.1 hquiet.2 fun r' hr' => hr'.count (.ofEntry e)⟩
      rw [hl, ledgerOf_note, hdispatch]
      exact add_assoc ..

/-- To read adds up to nothing, so a cycle counts what its batch does. -/
theorem booked_runCycle (d : Dispatcher ι σ) (s : Site ι σ) :
    ∃ l, ledgerOf (d.runCycle s).2.trace = ledgerOf s.trace + l ∧
      Booked (CountsEntries {}) l (d.runCycle s).1 := by
  have hread : (s.readNext d.config.batchSize).2.trace = s.trace := by
    unfold Site.readNext
    split <;> rfl
  unfold runCycle
  split <;> rename_i heq <;> rw [heq] at hread
  · exact ⟨0, congrArg ledgerOf hread, .unread _ rfl rfl⟩
  · rename_i entries s'
    obtain ⟨l, hl, hbooked⟩ := booked_dispatchEach d entries { read := entries.length } s'
    exact ⟨l, hl.trans (congrArg (ledgerOf · + l) hread), hbooked⟩

/-- A round counts what somebody got again, by induction on what is still overdue. -/
theorem booked_redispatchEach (d : Dispatcher ι σ) (ps : List Projectable) (done : Nat)
    (s : Site ι σ) :
    ∃ l, ledgerOf (d.redispatchEach ps done s).2.trace = ledgerOf s.trace + l ∧
      Booked (CountsAgain done) l (d.redispatchEach ps done s).1 := by
  induction ps generalizing done s with
  | nil => exact ⟨0, (add_zero _).symm, .ok done ⟨rfl, rfl, rfl⟩ rfl rfl⟩
  | cons p rest ih =>
    rw [redispatchEach]
    by_cases hconfirmed : s.confirmations.IsConfirmed p.id
    · -- what is confirmed by now is passed over, and nothing is noted
      have hpass : d.redispatch p s = (.ok 0, s) := if_pos hconfirmed
      rw [hpass]
      exact ih done s
    · have hagain : d.redispatch p s = ((d.dispatch p s).1,
          (d.dispatch p s).2.note (.redispatched p (d.dispatch p s).1)) := if_neg hconfirmed
      have hdispatch := ledgerOf_dispatch d p s
      have hjournal (err : DispatchError) :
          (d.dispatch p s).1 = .error err → ∀ source, err ≠ .journal source :=
        ne_journal_of_dispatch
      rw [hagain]
      rcases hd : d.dispatch p s with ⟨err | n, s'⟩ <;> rw [hd] at hdispatch hjournal
      · refine ⟨{ failures := 1 }, ?_, .failed err (hjournal err rfl) rfl rfl⟩
        exact (ledgerOf_note s' _).trans (congrArg (· + _) hdispatch)
      · obtain ⟨l, hl, hbooked⟩ := ih (if 0 < n then done + 1 else done)
          (s'.note (.redispatched p (.ok n)))
        have hquiet : (Occurrence.redispatched p (.ok n) : Occurrence ι).ledger.failures = 0
            ∧ (Occurrence.redispatched p (.ok n) : Occurrence ι).ledger.unread = 0 := by
          rw [Occurrence.ledger_redispatched]
          split <;> exact ⟨rfl, rfl⟩
        refine ⟨_, ?_, hbooked.note hquiet.1 hquiet.2 fun m hm => hm.count p⟩
        show ledgerOf (d.redispatchEach rest _ (s'.note (.redispatched p (.ok n)))).2.trace = _
        rw [hl, ledgerOf_note, hdispatch]
        exact add_assoc ..

end Dispatcher

/-! ### The counters of a worker -/

/-- What is in no counter: the ledger of a stretch that broke off with a directive. -/
def lostIn (T : List (Occurrence ι)) : Ledger := if directivesIn T = [] then 0 else ledgerOf T

/-- The counters are `before` the stretch and `after` it. -/
structure Books (before after : WorkerTally) (T : List (Occurrence ι)) : Prop where
  dispatched : after.dispatched + (lostIn T).dispatched
    = before.dispatched + (ledgerOf T).dispatched
  unrouted : after.unrouted + (lostIn T).unrouted = before.unrouted + (ledgerOf T).unrouted
  redispatched : after.redispatched + (lostIn T).redispatched
    = before.redispatched + (ledgerOf T).redispatched
  failures : after.failures = before.failures + ((ledgerOf T).failures + (ledgerOf T).unread)
  asked : (directivesIn T).length = (ledgerOf T).failures + (ledgerOf T).unread
  once : (directivesIn T).length ≤ 1

namespace Books

variable {before after : WorkerTally} {T : List (Occurrence ι)}

theorem nil (tally : WorkerTally) : Books tally tally ([] : List (Occurrence ι)) :=
  ⟨rfl, rfl, rfl, rfl, rfl, Nat.zero_le 1⟩

/-- Nothing fails in the stretch, and what it adds up to is counted. -/
theorem of_well (hT : directivesIn T = []) (hfailures : (ledgerOf T).failures = 0)
    (hunread : (ledgerOf T).unread = 0) (hsame : after.failures = before.failures)
    (hdispatched : after.dispatched = before.dispatched + (ledgerOf T).dispatched)
    (hunrouted : after.unrouted = before.unrouted + (ledgerOf T).unrouted)
    (hredispatched : after.redispatched = before.redispatched + (ledgerOf T).redispatched) :
    Books before after T := by
  have hlost : lostIn T = 0 := if_pos hT
  refine ⟨?_, ?_, ?_, ?_, ?_, by simp [hT]⟩
  · rw [hlost, hdispatched]
    rfl
  · rw [hlost, hunrouted]
    rfl
  · rw [hlost, hredispatched]
    rfl
  · rw [hsame, hfailures, hunread]
    rfl
  · rw [hT, hfailures, hunread]
    rfl

/-- One thing fails in the stretch, and that alone is counted. -/
theorem of_failed {directive : Directive} (hT : directivesIn T = [directive])
    (hone : (ledgerOf T).failures + (ledgerOf T).unread = 1) : Books before before.fail T := by
  have hlost : lostIn T = ledgerOf T := if_neg (by simp [hT])
  refine ⟨?_, ?_, ?_, ?_, ?_, by simp [hT]⟩
  · rw [hlost]
    rfl
  · rw [hlost]
    rfl
  · rw [hlost]
    rfl
  · rw [hone]
    rfl
  · rw [hT, hone]
    rfl

end Books

namespace Worker

variable [DecidableEq ι]

/-- No directive touches the counters. -/
theorem stats_obey (d : Dispatcher ι σ) (time : Nat) (e : DispatchError) (attempt : Nat)
    (w : Worker) (s : Site ι σ) (directive : Directive) :
    (obey d time e attempt w s directive).1.stats = w.stats := by
  cases directive with
  | retryAfter delay =>
    unfold obey
    dsimp only
    split <;> rfl
  | _ => rfl

theorem stats_obeyRecheck (d : Dispatcher ι σ) (e : DispatchError) (w : Worker) (s : Site ι σ)
    (directive : Directive) : (obeyRecheck d e w s directive).1.stats = w.stats := by
  cases directive <;> rfl

omit [DecidableEq ι] in
/-- A failure, the directive about it, and what follows. -/
theorem books_of_failure {d : Dispatcher ι σ} {s s₁ s' : Site ι σ} {T U : List (Occurrence ι)}
    {blamed : Option String} {round : Round} {time : Nat} {e : DispatchError} {attempt : Nat}
    {directive : Directive} {is : List ι} (tally : WorkerTally)
    (hT : d.Blames s s₁ T blamed)
    (hU : Resets (s₁.note (.decided round time e attempt directive)) s' U is)
    (hone : (ledgerOf T).failures + (ledgerOf T).unread
      + (Occurrence.decided (ι := ι) round time e attempt directive).ledger.unread = 1) :
    ∃ T, s'.trace = s.trace ++ T ∧ Books tally tally.fail T := by
  -- a reset is in no ledger
  have hquiet : ledgerOf U = 0 := by
    refine ledgerOf_eq_zero fun o ho => ?_
    obtain ⟨i, outcome, rfl⟩ := hU.quiet o ho
    rfl
  have hledger : ledgerOf (T ++ .decided round time e attempt directive :: U)
      = ledgerOf T + (Occurrence.decided (ι := ι) round time e attempt directive).ledger := by
    rw [ledgerOf_append]
    show _ + (_ + ledgerOf U) = _
    rw [hquiet, add_zero]
  -- a failed dispatch was counted where it was noted, not where the supervisor decided
  have hfailures : (Occurrence.decided (ι := ι) round time e attempt directive).ledger.failures
      = 0 := by
    cases e <;> rfl
  refine ⟨T ++ .decided round time e attempt directive :: U, ?_, ?_⟩
  · rw [hU.trace, Site.note, hT.trace, List.append_assoc, List.append_assoc]
    rfl
  · have hdirectives : directivesIn (T ++ .decided round time e attempt directive :: U)
        = [directive] := by
      rw [directivesIn_append, hT.directives]
      exact congrArg (directive :: ·) hU.directivesIn_eq_nil
    apply Books.of_failed hdirectives
    rw [hledger, Ledger.failures_add, Ledger.unread_add, hfailures]
    omega

/-- A cycle that breaks off adds one failure to the counters, and one that ends well its whole
report. -/
theorem books_cycle (d : Dispatcher ι σ) (decide : Supervisor) (time : Nat) (w : Worker)
    (s : Site ι σ) :
    ∃ T, (w.cycle d decide time s).2.trace = s.trace ++ T ∧
      Books w.stats (w.cycle d decide time s).1.stats T := by
  obtain ⟨T, hT⟩ := d.blames_runCycle s
  obtain ⟨l, hl, hbooked⟩ := d.booked_runCycle s
  rw [hT.trace, ledgerOf_append] at hl
  -- the ledger that was booked is that of the stretch `T`
  cases Ledger.eq_of_add_eq hl
  unfold cycle
  split
  · exact ⟨[], (List.append_nil _).symm, .nil w.stats⟩
  · rcases hd : d.runCycle s with ⟨e | r, s'⟩ <;> rw [hd] at hT hbooked
    · let attempt := w.attemptAt e.globalPosition
      obtain ⟨U, hU⟩ := resets_obey d time e attempt w.fail
        (s'.note (.decided .cycle time e attempt (decide e attempt))) (decide e attempt)
      have hstats : (askSupervisor d decide time e w s').1.stats = w.stats.fail := stats_obey ..
      dsimp only
      rw [hstats]
      exact books_of_failure w.stats hT hU (hbooked.one ..)
    · refine ⟨T, hT.trace, ?_⟩
      cases hbooked with
      | ok _ hcounts hfailures hunread =>
        obtain ⟨hdispatched, hunrouted, hredispatched⟩ := hcounts
        rw [Nat.zero_add] at hdispatched hunrouted
        apply Books.of_well hT.directives hfailures hunread
        · rfl
        · exact congrArg (w.stats.dispatched + ·) hdispatched
        · exact congrArg (w.stats.unrouted + ·) hunrouted
        · rw [hredispatched]
          rfl

/-- The same for a round over what is overdue. -/
theorem books_recheck (d : Dispatcher ι σ) (decide : Supervisor) (time : Nat) (w : Worker)
    (s : Site ι σ) :
    ∃ T, (w.recheck d decide time s).2.trace = s.trace ++ T ∧
      Books w.stats (w.recheck d decide time s).1.stats T := by
  obtain ⟨T, hT⟩ := d.blames_redispatchEach (d.overdue s) 0 s
  obtain ⟨l, hl, hbooked⟩ := d.booked_redispatchEach (d.overdue s) 0 s
  rw [hT.trace, ledgerOf_append] at hl
  cases Ledger.eq_of_add_eq hl
  unfold recheck Dispatcher.redispatchOverdue
  split
  · exact ⟨[], (List.append_nil _).symm, .nil w.stats⟩
  · rcases hd : d.redispatchEach (d.overdue s) 0 s with ⟨e | n, s'⟩ <;> rw [hd] at hT hbooked
    · obtain ⟨U, hU⟩ := resets_obeyRecheck d e w.fail
        (s'.note (.decided .recheck time e 1 (decide e 1))) (decide e 1)
      dsimp only
      rw [stats_obeyRecheck]
      exact books_of_failure w.stats hT hU (hbooked.one ..)
    · refine ⟨T, hT.trace, ?_⟩
      cases hbooked with
      | ok _ hcounts hfailures hunread =>
        obtain ⟨hn, hdispatched, hunrouted⟩ := hcounts
        rw [Nat.zero_add] at hn
        apply Books.of_well hT.directives hfailures hunread
        · rfl
        · rw [hdispatched]
          rfl
        · rw [hunrouted]
          rfl
        · exact congrArg (w.stats.redispatched + ·) hn

/-- What a tick does is in the books. -/
theorem books_tick (d : Dispatcher ι σ) (decide : Supervisor) (round : Round) (time : Nat)
    (w : Worker) (s : Site ι σ) :
    ∃ T, (w.tick d decide round time s).2.trace = s.trace ++ T ∧
      Books w.stats (w.tick d decide round time s).1.stats T := by
  cases round with
  | cycle => exact books_cycle ..
  | recheck => exact books_recheck ..

end Worker

/-! ### Runs -/

namespace Watch

variable [DecidableEq ι] {w : Watch ι σ} {ms : List (Move ι σ)}

/-- What the worker did at each of its ticks. -/
def stretches (w : Watch ι σ) : List (Move ι σ) → List (List (Occurrence ι))
  | [] => []
  | .tick round time :: rest =>
    w.done [.tick round time] :: (w.make (.tick round time)).stretches rest
  | m :: rest => (w.make m).stretches rest

/-- What the worker did adds up to this. -/
def total (w : Watch ι σ) (ms : List (Move ι σ)) : Ledger := ((w.stretches ms).map ledgerOf).sum

/-- What the worker did at ticks that broke off adds up to this. -/
def lost (w : Watch ι σ) (ms : List (Move ι σ)) : Ledger := ((w.stretches ms).map lostIn).sum

/-- The counters of the worker account for what it did in a run, less what was lost. -/
structure KeepsBooks (w : Watch ι σ) (ms : List (Move ι σ)) : Prop where
  dispatched : (w.run ms).worker.stats.dispatched + (w.lost ms).dispatched
    = w.worker.stats.dispatched + (w.total ms).dispatched
  unrouted : (w.run ms).worker.stats.unrouted + (w.lost ms).unrouted
    = w.worker.stats.unrouted + (w.total ms).unrouted
  redispatched : (w.run ms).worker.stats.redispatched + (w.lost ms).redispatched
    = w.worker.stats.redispatched + (w.total ms).redispatched
  failures : (w.run ms).worker.stats.failures
    = w.worker.stats.failures + ((w.total ms).failures + (w.total ms).unread)
  /-- The supervisor is asked about each failure, and no two of them meet at one tick. -/
  asked : ∀ T ∈ w.stretches ms,
    (directivesIn T).length = (ledgerOf T).failures + (ledgerOf T).unread ∧
      (directivesIn T).length ≤ 1

/-- What a tick adds to the trace is one stretch of the run. -/
theorem books_make (w : Watch ι σ) (round : Round) (time : Nat) :
    Books w.worker.stats (w.make (.tick round time)).worker.stats
      (w.done [.tick round time]) := by
  obtain ⟨T, htrace, hbooks⟩ :=
    Worker.books_tick w.dispatcher w.supervisor round time w.worker w.site
  have hdone : w.done [.tick round time] = T := done_of_trace htrace
  rw [hdone]
  exact hbooks

/-- A tick in front of a run. -/
theorem KeepsBooks.tick {round : Round} {time : Nat}
    (h : (w.make (.tick round time)).KeepsBooks ms) : w.KeepsBooks (.tick round time :: ms) := by
  have hbooks := books_make w round time
  have htotal : w.total (.tick round time :: ms)
      = ledgerOf (w.done [.tick round time]) + (w.make (.tick round time)).total ms :=
    List.sum_cons
  have hlost : w.lost (.tick round time :: ms)
      = lostIn (w.done [.tick round time]) + (w.make (.tick round time)).lost ms := List.sum_cons
  refine ⟨?_, ?_, ?_, ?_, ?_⟩
  · have hfirst := hbooks.dispatched
    have hrest := h.dispatched
    rw [run_cons, htotal, hlost, Ledger.dispatched_add, Ledger.dispatched_add]
    omega
  · have hfirst := hbooks.unrouted
    have hrest := h.unrouted
    rw [run_cons, htotal, hlost, Ledger.unrouted_add, Ledger.unrouted_add]
    omega
  · have hfirst := hbooks.redispatched
    have hrest := h.redispatched
    rw [run_cons, htotal, hlost, Ledger.redispatched_add, Ledger.redispatched_add]
    omega
  · have hfirst := hbooks.failures
    have hrest := h.failures
    rw [run_cons, htotal, Ledger.failures_add, Ledger.unread_add]
    omega
  · exact List.forall_mem_cons.2 ⟨⟨hbooks.asked, hbooks.once⟩, h.asked⟩

/-- **What a worker did is what it counted and what it lost** at ticks that broke off, in any
run in which it is not relieved. -/
theorem keepsBooks_run (hms : ∀ m ∈ ms, ¬ m.Relieves) : w.KeepsBooks ms := by
  induction ms generalizing w with
  | nil => exact ⟨rfl, rfl, rfl, rfl, by simp [stretches]⟩
  | cons m rest ih =>
    have hrest : (w.make m).KeepsBooks rest := ih fun m' hm' => hms m' (List.mem_cons_of_mem _ hm')
    cases m with
    | tick round time => exact hrest.tick
    | relieve dispatcher supervisor => exact absurd trivial (hms _ List.mem_cons_self)
    -- other moves leave the counters alone and are not stretches of the worker
    | _ => exact { hrest with }

/-- The counters account for all that the worker did. -/
def CountsAll (w : Watch ι σ) (ms : List (Move ι σ)) : Prop :=
  (w.run ms).worker.stats.dispatched = w.worker.stats.dispatched + (w.total ms).dispatched ∧
    (w.run ms).worker.stats.unrouted = w.worker.stats.unrouted + (w.total ms).unrouted ∧
    (w.run ms).worker.stats.redispatched
      = w.worker.stats.redispatched + (w.total ms).redispatched ∧
    (w.run ms).worker.stats.failures = w.worker.stats.failures + (w.total ms).failures

/-- A projection that refuses entries of type `b` and says nothing about others. -/
def hasty : Watch Unit Script.State :=
  .start (fun _ => default)
    (fun _ => Script.projection
      { name := "hasty", default := .silent, forReason := [("b", .fail (.business "no"))] })
    fun _ _ => .resume

/-- A batch breaks off at its second entry, and the third one is handed out at the next tick. -/
def brokenDay : List (Move Unit Script.State) :=
  [.register ⟨(), ["*"], "all", Route.star_ne_nil⟩,
    .operate (.append
      ⟨⟨"s"⟩, .any, [⟨"a", 1, .null⟩, ⟨"b", 1, .null⟩, ⟨"c", 1, .null⟩], .none, none⟩),
    .tick .cycle 0, .tick .cycle 1]

/-- Two entries are dispatched, and one of them is counted. -/
theorem keepsBooks_brokenDay :
    (∀ m ∈ brokenDay, ¬ m.Relieves) ∧ hasty.KeepsBooks brokenDay ∧
      hasty.total brokenDay = { dispatched := 2, failures := 1 } ∧
      hasty.lost brokenDay = { dispatched := 1, failures := 1 } ∧
      (hasty.run brokenDay).worker.stats
        = { cycles := 1, entriesRead := 1, dispatched := 1, failures := 1 } := by
  have hms : ∀ m ∈ brokenDay, ¬ m.Relieves := by simp [brokenDay, Move.Relieves]
  exact ⟨hms, keepsBooks_run hms, by decide, by decide, by decide⟩

/-- The entry in front of the failure was dispatched, and no counter knows of it. -/
theorem not_countsAll_brokenDay : ¬ hasty.CountsAll brokenDay := by
  have htotal : (hasty.total brokenDay).dispatched = 2 := by decide
  have hstats : (hasty.run brokenDay).worker.stats.dispatched = 1 := by decide
  rintro ⟨hdispatched, -⟩
  rw [htotal, hstats] at hdispatched
  cases hdispatched

end Watch

end EventJournal
