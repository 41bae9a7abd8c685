/-
EventJournal/Proofs/Dispatch/Pace.lean

A cycle of a worker is some turns, in which entries are taken one at a time.

The dispatcher of the worker and the one that takes the turns may differ in their
settings, and their sites in stamps, clocks and cursors (`Site.Mirrors`).  A cycle reads a
batch and hands it out up to the first failure; what is left of the batch behind a failure
was not touched, and is read again.

A worker keeps a record of the last failure and clears it once for a whole batch, where the
turns count failures at the cursor.  The record knows its entry only by the place that the error
told, and routes that refuse to answer tell none (`Site.told`).  Both counts are the same all the
same, because an entry for which the routes refuse to answer is never passed: a failure at any
entry behind the cursor tells another place than the record, and is counted from one
(`Worker.KeepsPace`).

Main result: `keepsPace_cycle`.  The batch may be of any size but zero; a cycle that reads
nothing clears the record, and has to mean that nothing is left.
-/
import EventJournal.Proofs.Dispatch.Alike
import EventJournal.Proofs.Dispatch.Course
import EventJournal.Proofs.Dispatch.Order

namespace EventJournal

variable {ι σ : Type} {mask : Mask}

/-- An entry that was read once stays where it was read. -/
theorem Journal.Extends.getElem? {j j' : Journal} (h : j.Extends j') {i : Nat} {e : Entry}
    (he : j.log[i]? = some e) : j'.log[i]? = some e := by
  obtain ⟨more, hmore⟩ := h.log_prefix
  have hlt := (List.getElem?_eq_some_iff.1 he).1
  rw [← hmore, List.getElem?_append_left hlt, he]

/-! ### Sites -/

section Sites

variable [DecidableEq ι] {d₀ d : Dispatcher ι σ} {decide : Supervisor}

/-- Handing out does not touch the outages to come. -/
theorem Dispatcher.outages_of_handles {s s' : Site ι σ} (h : d.Handles s s') :
    s'.outages = s.outages := by
  induction h with
  | refl => rfl
  | tail _ hstep ih => cases hstep <;> exact ih

/-! ### Places -/

/-- The place that is told if the entry at the cursor fails: its own, unless it fails because the
routes refuse to answer for it. -/
def Site.told (s : Site ι σ) : Option Nat :=
  match s.journal.log[s.cursor]? with
  | none => none
  | some e =>
    match (s.router.matching (Projectable.ofEntry e).becauseOf).1 with
    | .error _ => none
    | .ok _ => some s.cursor

namespace Site

variable {s s' : Site ι σ} {e : Entry}

theorem told_of_refused (he : s.journal.log[s.cursor]? = some e) {err : RoutingError}
    (h : (s.router.matching (Projectable.ofEntry e).becauseOf).1 = .error err) :
    s.told = none := by
  unfold told
  rw [he]
  dsimp only
  rw [h]

theorem told_of_found (he : s.journal.log[s.cursor]? = some e) {found : List ι}
    (h : (s.router.matching (Projectable.ofEntry e).becauseOf).1 = .ok found) :
    s.told = some s.cursor := by
  unfold told
  rw [he]
  dsimp only
  rw [h]

theorem told_cases (s : Site ι σ) : s.told = none ∨ s.told = some s.cursor := by
  unfold told
  split
  · exact Or.inl rfl
  · split
    · exact Or.inl rfl
    · exact Or.inr rfl

/-- The cursor stands at the place that is told, if one is. -/
theorem place_told (s : Site ι σ) : Worker.place s.told id s = s := by
  rcases s.told_cases with h | h <;> rw [h] <;> rfl

/-- Handing out does not change what is told of the entry at the cursor. -/
theorem told_of_handles (h : d.Handles s s') (he : s.journal.log[s.cursor]? = some e) :
    s'.told = s.told := by
  obtain ⟨T, hT⟩ := Dispatcher.aside_of_handles h
  have he' : s'.journal.log[s'.cursor]? = some e := by
    rw [hT.cursor]
    exact hT.journal.getElem? he
  have hanswers := Dispatcher.answers_of_handles h (Projectable.ofEntry e).becauseOf
  cases hanswer : (s.router.matching (Projectable.ofEntry e).becauseOf).1 with
  | error err => rw [told_of_refused he hanswer, told_of_refused he' (hanswers.trans hanswer)]
  | ok found =>
    rw [told_of_found he hanswer, told_of_found he' (hanswers.trans hanswer), hT.cursor]

end Site

namespace Dispatcher

variable {s s' : Site ι σ} {e : Entry}

/-- A failure of the entry at the cursor tells what is to be told. -/
theorem globalPosition_of_dispatch (he : s.journal.log[s.cursor]? = some e)
    (hplace : e.globalPosition = s.cursor) {err : DispatchError}
    (h : d.dispatch (.ofEntry e) s = (.error err, s')) : err.globalPosition = s.told := by
  rcases exists_of_dispatch_error h with
    ⟨hanswer, rfl, -⟩ | ⟨found, hanswer, i, -, source, rfl⟩
  · exact (Site.told_of_refused he hanswer).symm
  · rw [Site.told_of_found he hanswer, ← hplace]
    rfl

/-- An entry that was handed out would have told its place. -/
theorem told_of_dispatch_ok (he : s.journal.log[s.cursor]? = some e) {n : Nat}
    (h : d.dispatch (.ofEntry e) s = (.ok n, s')) : s.told = some s.cursor := by
  cases Dispatches.of_dispatch h with
  | unrouted hanswer | handled hanswer => exact Site.told_of_found he hanswer

end Dispatcher

/-! ### Sites that are alike -/

variable [Setoid σ]

/-- The site `s`, where reading succeeds, is like the site `t`. -/
structure Site.Mirrors (mask : Mask) (s t : Site ι σ) : Prop where
  alike : s.Alike mask t
  indexed : s.journal.Indexed
  outages : s.outages = []

namespace Site.Mirrors

variable {s t : Site ι σ}

theorem note (h : s.Mirrors mask t) {o o' : Occurrence ι}
    (ho : mask.occurrence o = mask.occurrence o') : (s.note o).Mirrors mask (t.note o') :=
  ⟨h.alike.note ho, h.indexed, h.outages⟩

theorem seek (h : s.Mirrors mask t) (c c' : Nat) : (s.seek c).Mirrors mask (t.seek c') :=
  ⟨h.alike.seek c c', h.indexed, h.outages⟩

/-- Reading succeeds, and moves the cursor behind the whole batch. -/
theorem readNext (h : s.Mirrors mask t) (most : Nat) :
    s.readNext most = (.ok (s.journal.readFrom s.cursor most),
      s.seek (s.cursor + (s.journal.readFrom s.cursor most).length)) := by
  unfold Site.readNext
  rw [h.outages]
  dsimp only
  rw [List.tail_nil, ← h.outages]
  rfl

/-- Handing out keeps the journal in order and the reader going. -/
theorem of_handles {s' t' : Site ι σ} (h : s.Mirrors mask t) (hs : d.Handles s s')
    (halike : s'.Alike mask t') : s'.Mirrors mask t' where
  alike := halike
  indexed := by
    obtain ⟨T, hT⟩ := Dispatcher.aside_of_handles hs
    exact hT.journal.indexed h.indexed
  outages := (Dispatcher.outages_of_handles hs).trans h.outages

theorem resetFailed (h : s.Mirrors mask t) (hd : d.Alike mask d₀) (e : DispatchError) :
    (Worker.resetFailed d e s).Mirrors mask (Worker.resetFailed d₀ e t) := by
  refine h.of_handles (d := d) ?_ (hd.resetFailed h.alike e)
  unfold Worker.resetFailed
  split
  · exact .refl
  · exact Dispatcher.handles_resetNamed ..

theorem place (h : s.Mirrors mask t) (position : Option Nat) (target : Nat → Nat) :
    (Worker.place position target s).Mirrors mask (Worker.place position target t) := by
  cases position with
  | none => exact h
  | some p => exact h.seek ..

end Site.Mirrors

/-! ### Batches -/

/-- The entry at the cursor fails with the error `err`, and `t` is the site at which the
supervisor is asked. -/
structure Dispatcher.Fails (d : Dispatcher ι σ) (decide : Supervisor) (g : Progress ι σ)
    (err : DispatchError) (t : Site ι σ) : Prop where
  turn : d.turn decide g = some (d.consult decide err g.attempt t)
  cursor : t.cursor = g.site.cursor
  length : t.cursor < t.journal.length
  position : err.globalPosition = g.site.told
  /-- The same would be told if the entry failed again. -/
  again : t.told = g.site.told

variable {s : Site ι σ} {g : Progress ι σ}

/-- Dispatching the entry at the cursor of `g` is the next turn of `g`, or the part of it before
the supervisor is asked. -/
theorem mirrors_dispatch (decide : Supervisor) (hd : d.Alike mask d₀)
    (h : s.Mirrors mask g.site) (hgoing : g.isStopped = false) {e : Entry}
    (he : s.journal.log[g.site.cursor]? = some e) :
    (∃ n s' g', d.dispatch (.ofEntry e) s = (.ok n, s') ∧ s.journal.Extends s'.journal ∧
      s'.cursor = s.cursor ∧ d₀.turn decide g = some g' ∧
      (s'.note (.dispatched (.ofEntry e) (.ok n))).Mirrors mask g'.site ∧
      g.site.told = some g.site.cursor ∧ g'.site.cursor = g.site.cursor + 1 ∧
      g'.failures = 0 ∧ g'.isStopped = false) ∨
    ∃ err s' t, d.dispatch (.ofEntry e) s = (.error err, s') ∧ d₀.Fails decide g err t ∧
      (s'.note (.dispatched (.ofEntry e) (.error err))).Mirrors mask t := by
  -- the other log has an entry at the same place that looks the same
  obtain ⟨e₀, he₀, hstamp⟩ := h.alike.journal.getElem? he
  have hp := Mask.projectable_ofEntry hstamp
  have hplace : e₀.globalPosition = g.site.cursor := by
    have hsame := Mask.globalPosition_eq hp
    rw [Projectable.globalPosition_ofEntry, Projectable.globalPosition_ofEntry,
      Option.some_inj] at hsame
    rw [← hsame, h.indexed.globalPosition_eq he]
  have hturn : d₀.turn decide g = some (d₀.take decide g e₀) :=
    Dispatcher.turn_of_getElem? hgoing he₀
  have hhandles := d.handles_dispatch (.ofEntry e) s
  have hhandles₀ := d₀.handles_dispatch (.ofEntry e₀) g.site
  obtain ⟨T, hT⟩ := Dispatcher.aside_of_handles hhandles
  obtain ⟨T₀, hT₀⟩ := Dispatcher.aside_of_handles hhandles₀
  have hagain := Site.told_of_handles hhandles₀ he₀
  obtain ⟨houtcome, halike⟩ := hd.dispatch hp h.alike
  have hmirrors := h.of_handles hhandles halike
  unfold Dispatcher.take at hturn
  -- the outcomes agree, so that both dispatches fail or neither does
  rcases hs : d.dispatch (.ofEntry e) s with ⟨err | n, s'⟩ <;>
    rcases ht : d₀.dispatch (.ofEntry e₀) g.site with ⟨err₀ | n₀, t⟩ <;>
    rw [hs] at houtcome hmirrors hT <;> rw [ht] at houtcome hmirrors hT₀ hturn hagain <;>
    cases houtcome
  · have hlength : t.cursor < t.journal.length := by
      rw [hT₀.cursor]
      exact (List.getElem?_eq_some_iff.1 (hT₀.journal.getElem? he₀)).1
    refine Or.inr ⟨err, s', _, rfl, ⟨hturn, hT₀.cursor, hlength, ?_, hagain⟩, hmirrors.note ?_⟩
    · exact Dispatcher.globalPosition_of_dispatch he₀ hplace ht
    · simp only [Mask.occurrence, hp]
  · refine Or.inl ⟨n, s', _, rfl, hT.journal, hT.cursor, hturn, ?_, ?_, ?_, rfl, rfl⟩
    · refine Site.Mirrors.seek (hmirrors.note ?_) s'.cursor _
      simp only [Mask.occurrence, hp]
    · exact Dispatcher.told_of_dispatch_ok he₀ ht
    · exact congrArg (· + 1) hT₀.cursor

/-- The entries of a batch are taken in turns, up to the first that fails.  What that one tells is
not what the first entry would have told, unless it is the first. -/
theorem mirrors_dispatchEach (decide : Supervisor) (hd : d.Alike mask d₀) (es : List Entry)
    (report : CycleCount) (h : s.Mirrors mask g.site) (hgoing : g.isStopped = false)
    (hes : ∀ k e, es[k]? = some e → s.journal.log[g.site.cursor + k]? = some e) :
    (∃ r s' g', d.dispatchEach es report s = (.ok r, s') ∧
      StateTransition.Reaches (d₀.turn decide) g g' ∧ s'.Mirrors mask g'.site ∧
      s'.cursor = s.cursor ∧ g'.site.cursor = g.site.cursor + es.length ∧
      g'.isStopped = false ∧ (es = [] ∧ g' = g ∨ g'.failures = 0)) ∨
    ∃ err s' g' t, d.dispatchEach es report s = (.error err, s') ∧
      StateTransition.Reaches (d₀.turn decide) g g' ∧ d₀.Fails decide g' err t ∧
      s'.Mirrors mask t ∧ s'.cursor = t.cursor ∧
      (g' = g ∨ g'.failures = 0 ∧ g.site.told = some g.site.cursor ∧
        g.site.cursor < g'.site.cursor) := by
  induction es generalizing report s g with
  | nil => exact Or.inl ⟨report, s, g, rfl, .refl, h, rfl, rfl, hgoing, Or.inl ⟨rfl, rfl⟩⟩
  | cons e rest ih =>
    have he : s.journal.log[g.site.cursor]? = some e := hes 0 e rfl
    rw [Dispatcher.dispatchEach]
    rcases mirrors_dispatch decide hd h hgoing he with
      ⟨n, s₁, g₁, hs, hjournal, hcur, hturn, hmirrors, htold, hcursor, hfailures, hgoing₁⟩ |
      ⟨err, s₁, t, hs, hfails, hmirrors⟩
    · rw [hs]
      -- dispatching may append to the journal, but moves nothing that was read
      have hrest : ∀ k e', rest[k]? = some e' → s₁.journal.log[g₁.site.cursor + k]? = some e' := by
        intro k e' hk
        rw [hcursor, Nat.add_right_comm]
        exact hjournal.getElem? (hes (k + 1) e' hk)
      rcases ih (report.count n) hmirrors hgoing₁ hrest with
        ⟨r, s', g', heq, hreaches, hmirrors', hcur', hcursor', hgoing', hfailures'⟩ |
        ⟨err, s', g', t, heq, hreaches, hfails, hmirrors', hcur', hfailures'⟩
      · refine Or.inl ⟨r, s', g', heq, hreaches.head hturn, hmirrors', hcur'.trans hcur, ?_,
          hgoing', Or.inr ?_⟩
        · rw [hcursor', hcursor, List.length_cons, Nat.add_right_comm, Nat.add_assoc]
        · rcases hfailures' with ⟨-, rfl⟩ | hfailures'
          · exact hfailures
          · exact hfailures'
      · refine Or.inr ⟨err, s', g', t, heq, hreaches.head hturn, hfails, hmirrors', hcur',
          Or.inr ?_⟩
        rcases hfailures' with rfl | ⟨hfailures', -, hlt⟩
        · exact ⟨hfailures, htold, by omega⟩
        · exact ⟨hfailures', htold, by omega⟩
    · rw [hs]
      -- the reader goes back to the entry that failed, where the turns never left it
      refine Or.inr ⟨err, _, g, t, rfl, .refl, hfails, ?_, ?_, Or.inl rfl⟩
      · exact hmirrors.seek e.globalPosition t.cursor
      · rw [hfails.cursor]
        exact h.indexed.globalPosition_eq he

/-! ### Cycles -/

/-- The worker counts failures as `g` does: it keeps a record of the entry at the cursor, by what
is told if that entry fails, or it keeps none and the entry has not failed yet. -/
def Worker.CountsAs (w : Worker) (g : Progress ι σ) : Prop :=
  (w.retry = none ∧ g.failures = 0) ∨
    ∃ r, w.retry = some r ∧ r.position = g.site.told ∧ r.attempt = g.failures ∧
      g.site.cursor < g.site.journal.length

/-- The worker at the site `s` is as far as `g`, and counts failures as `g` does. -/
structure Worker.KeepsPace (mask : Mask) (w : Worker) (s : Site ι σ) (g : Progress ι σ) :
    Prop where
  mirrors : s.Mirrors mask g.site
  cursor : s.cursor = g.site.cursor
  going : w.isFinished = false → g.isStopped = false
  counts : w.isFinished = false → w.CountsAs g

namespace Worker

variable {w : Worker}

omit [Setoid σ] in
/-- A failure of the entry at the cursor goes on with the count. -/
theorem CountsAs.attemptAt_told (h : w.CountsAs g) : w.attemptAt g.site.told = g.attempt := by
  rcases h with ⟨hretry, hfailures⟩ | ⟨r, hretry, hposition, hattempt, -⟩
  · rw [attemptAt, hretry, Progress.attempt_of_failures_eq_zero hfailures]
  · rw [attemptAt, hretry]
    dsimp only
    rw [if_pos hposition, hattempt, Progress.attempt]

omit [Setoid σ] in
/-- A failure that tells another place is the first. -/
theorem CountsAs.attemptAt_of_ne (h : w.CountsAs g) {position : Option Nat}
    (hne : g.site.told ≠ position) : w.attemptAt position = 1 := by
  rcases h with ⟨hretry, -⟩ | ⟨r, hretry, hposition, -, -⟩
  · rw [attemptAt, hretry]
  · rw [attemptAt, hretry]
    dsimp only
    rw [hposition, if_neg hne]

omit [Setoid σ] in
/-- A failure in a batch is counted as the turns count it: at the head of the batch the count goes
on, and behind it another place is told than would have been at the head. -/
theorem CountsAs.attemptAt_of_batch (h : w.CountsAs g) {g' : Progress ι σ}
    (hg' : g' = g ∨ g'.failures = 0 ∧ g.site.told = some g.site.cursor ∧
      g.site.cursor < g'.site.cursor) : w.attemptAt g'.site.told = g'.attempt := by
  rcases hg' with rfl | ⟨hfailures, htold, hlt⟩
  · exact h.attemptAt_told
  · rw [Progress.attempt_of_failures_eq_zero hfailures]
    refine h.attemptAt_of_ne ?_
    rw [htold]
    rcases g'.site.told_cases with h' | h' <;> rw [h']
    · exact nofun
    · rw [Ne, Option.some_inj]
      omega

/-- If a batch is empty then the turns have come to the end of the log. -/
theorem KeepsPace.length_le_of_readFrom_eq_nil (h : w.KeepsPace mask s g) {most : Nat}
    (hmost : 1 ≤ most) (hnil : s.journal.readFrom s.cursor most = []) :
    g.site.journal.length ≤ g.site.cursor := by
  have hlength := congrArg List.length hnil
  -- the turns stand where the worker stands, in a log of the same length
  rw [Journal.length_readFrom, List.length_nil, h.cursor, h.mirrors.alike.journal.length] at hlength
  omega

/-- A worker that keeps no record counts as one does at an entry that has not failed yet. -/
theorem KeepsPace.of_retry_eq_none (hmirrors : s.Mirrors mask g.site)
    (hcur : s.cursor = g.site.cursor) (hgoing : g.isStopped = false) (hretry : w.retry = none)
    (hfailures : g.failures = 0) : w.KeepsPace mask s g where
  mirrors := hmirrors
  cursor := hcur
  going _ := hgoing
  counts _ := Or.inl ⟨hretry, hfailures⟩

/-- The worker follows a directive about the entry at the cursor as in a turn. -/
theorem keepsPace_obey (hd : d.Alike mask d₀) {t : Site ι σ} (h : s.Mirrors mask t)
    (hcur : s.cursor = t.cursor) (hlength : t.cursor < t.journal.length) (time : Nat)
    {e : DispatchError} (he : e.globalPosition = t.told) (attempt : Nat)
    (directive : Directive) :
    (obey d time e attempt w s directive).1.KeepsPace mask (obey d time e attempt w s directive).2
      (d₀.afterFailure e attempt t directive) := by
  have hcursors {s t : Site ι σ} (hcur : s.cursor = t.cursor) (target : Nat → Nat) :
      (place e.globalPosition target s).cursor = (place e.globalPosition target t).cursor := by
    rw [cursor_place, cursor_place, hcur]
  -- where the worker is to try again it stays, as the turns do
  have hstays := h.place e.globalPosition id
  have hcurstays := hcursors hcur id
  rw [he, t.place_told, ← he] at hstays hcurstays
  cases directive with
  | resume => exact .of_retry_eq_none (h.place ..) (hcursors hcur _) rfl rfl rfl
  | restart =>
    have hreset := h.resetFailed hd e
    obtain ⟨U, hU⟩ := aside_resetFailed d e s
    obtain ⟨V, hV⟩ := aside_resetFailed d₀ e t
    have hcur' := (hU.cursor.trans hcur).trans hV.cursor.symm
    exact .of_retry_eq_none (hreset.place ..) (hcursors hcur' _) rfl rfl rfl
  | retryAfter delay =>
    refine ⟨hstays, hcurstays, fun _ => rfl, ?_⟩
    unfold obey
    dsimp only
    by_cases hclock : time + delay.nanos < clockEnd
    · rw [if_pos hclock]
      exact fun _ => Or.inr ⟨_, rfl, he, rfl, hlength⟩
    · -- the wait is too long for the clock, and the worker does nothing any more
      rw [if_neg hclock]
      intro hgoing
      cases hgoing
  | stop => exact ⟨hstays, hcurstays, by simp [obey], by simp [obey]⟩

/-- The worker asks its supervisor about the entry that fails at the next turn. -/
theorem keepsPace_askSupervisor (hd : d.Alike mask d₀) {t : Site ι σ} {err : DispatchError}
    (hfails : d₀.Fails decide g err t) (h : s.Mirrors mask t) (hcur : s.cursor = t.cursor)
    (time : Nat) (hattempt : w.attemptAt err.globalPosition = g.attempt) :
    (askSupervisor d decide time err w s).1.KeepsPace mask (askSupervisor d decide time err w s).2
      (d₀.consult decide err g.attempt t) := by
  have hnote : (s.note (.decided .cycle time err g.attempt (decide err g.attempt))).Mirrors mask
      (t.note (.decided .cycle 0 err g.attempt (decide err g.attempt))) := h.note rfl
  have hposition : err.globalPosition = t.told := hfails.position.trans hfails.again.symm
  unfold askSupervisor
  rw [hattempt]
  exact keepsPace_obey hd hnote hcur hfails.length time hposition _ _

/-- **A cycle is some turns.** -/
theorem keepsPace_cycle (hd : d.Alike mask d₀) (hbatch : 1 ≤ d.config.batchSize)
    (h : w.KeepsPace mask s g) (time : Nat) :
    ∃ g', StateTransition.Reaches (d₀.turn decide) g g' ∧
      (w.cycle d decide time s).1.KeepsPace mask (w.cycle d decide time s).2 g' := by
  unfold cycle
  split
  · exact ⟨g, .refl, h⟩
  · rename_i hrests
    have hw : w.isFinished = false := by
      cases hfin : w.isFinished with
      | false => rfl
      | true => simp [hfin] at hrests
    have hread := h.mirrors.readNext d.config.batchSize
    generalize hes : s.journal.readFrom s.cursor d.config.batchSize = es at hread
    have hlog : ∀ k e, es[k]? = some e → s.journal.log[g.site.cursor + k]? = some e := by
      intro k e hk
      rw [← hes] at hk
      rw [← h.cursor]
      exact Journal.getElem?_readFrom hk
    have hbegin := h.mirrors.seek (s.cursor + es.length) g.site.cursor
    unfold Dispatcher.runCycle
    rw [hread]
    dsimp only
    rcases mirrors_dispatchEach decide hd es { read := es.length } hbegin (h.going hw)
        hlog with
      ⟨r, s', g', heq, hreaches, hmirrors, hcur, hcursor, hgoing, hfailures⟩ |
      ⟨err, s', g', t, heq, hreaches, hfails, hmirrors, hcur, hfailures⟩
    · rw [heq]
      refine ⟨g', hreaches, .of_retry_eq_none hmirrors ?_ hgoing rfl ?_⟩
      · rw [hcur, hcursor, ← h.cursor]
        rfl
      · rcases hfailures with ⟨hnil, rfl⟩ | hfailures
        · -- an empty batch means that there is nothing left, and so nothing has failed
          have hlength := h.length_le_of_readFrom_eq_nil hbatch (hes.trans hnil)
          rcases h.counts hw with ⟨-, hzero⟩ | ⟨-, -, -, -, hlt⟩
          · exact hzero
          · exact absurd hlt (Nat.not_lt.2 hlength)
        · exact hfailures
    · rw [heq]
      refine ⟨_, hreaches.tail hfails.turn,
        keepsPace_askSupervisor hd hfails hmirrors hcur time ?_⟩
      rw [hfails.position]
      exact (h.counts hw).attemptAt_of_batch hfailures

end Worker

end Sites

end EventJournal
