/-
EventJournal/Proofs/Dispatch/Fairness.lean

Nobody waits behind a failure forever.

Every round ends at its first failure, so what stands behind may miss its turn.  But what a
projection failed at was marked just before, and so it leaves the queue of what was overdue at
some time `t`: a record that is made at `t` or later is not overdue at `t`.  For the same reason no
record enters that queue (`mem_queue_of_round`).  So whoever misses a round has fewer in
front of it afterwards (`hadTurn_or_closer`).

Nothing is asked of the projections, and of the clock only that it does not fall behind `t`.  But
poisoned routes are asked before anything is marked, and whoever they refuse an answer stays in
front (`done_rounds_of_refused`).

Main result: `again_rounds`.
-/
import EventJournal.Proofs.Dispatch.Redispatch
import Mathlib.Data.List.Perm.Subperm

namespace EventJournal

variable {ι σ : Type}

/-! ### Places in the queue -/

namespace Outstanding

variable {now t : Int} {threshold : Duration} {r q : Outstanding}

/-- What is overdue is overdue later on, too. -/
theorem IsOverdue.of_le (h : r.IsOverdue t threshold) (ht : t ≤ now) :
    r.IsOverdue now threshold := by
  unfold IsOverdue at h ⊢
  omega

theorem not_isOverdue_of_le (hr : t ≤ r.since) : ¬ r.IsOverdue t threshold := by
  unfold IsOverdue
  omega

/-- What is in front of an overdue record is overdue. -/
theorem IsOverdue.of_rank_lt (h : r.IsOverdue t threshold) (hlt : q.rank < r.rank) :
    q.IsOverdue t threshold := by
  have hsince : q.since ≤ r.since := by
    rcases Prod.Lex.toLex_lt_toLex.1 hlt with hlt | ⟨heq, -⟩
    · exact le_of_lt hlt
    · exact le_of_eq heq
  unfold IsOverdue at h ⊢
  omega

end Outstanding

namespace Confirmations

variable {c : Confirmations} {now : Int} {threshold : Duration} {r q : Outstanding}
  {before after : List Outstanding}

theorem Sound.rank_lt (h : c.Sound) (heq : c.overdueRecords now threshold = before ++ after)
    (hq : q ∈ before) (hr : r ∈ after) : q.rank < r.rank := by
  have hpairwise := h.pairwise_rank now threshold
  rw [heq, List.pairwise_append] at hpairwise
  exact hpairwise.2.2 q hq r hr

/-- In front of a record stand those of smaller rank. -/
theorem Sound.mem_before_iff (h : c.Sound)
    (heq : c.overdueRecords now threshold = before ++ r :: after) :
    q ∈ before ↔ q ∈ c.overdueRecords now threshold ∧ q.rank < r.rank := by
  constructor
  · intro hq
    exact ⟨heq ▸ List.mem_append_left _ hq, h.rank_lt heq hq List.mem_cons_self⟩
  · rintro ⟨hq, hlt⟩
    rw [List.append_cons] at heq
    rcases List.mem_append.1 (heq ▸ hq) with hq | hq
    · refine (List.mem_append.1 hq).resolve_right fun heq => ?_
      rw [List.mem_singleton.1 heq] at hlt
      exact lt_irrefl _ hlt
    · have hbehind := h.rank_lt heq (List.mem_append_right _ (List.mem_singleton_self r)) hq
      exact absurd hlt hbehind.asymm

end Confirmations

/-! ### Turns -/

/-- The projectable was dispatched again. -/
def AgainIn (T : List (Occurrence ι)) (p : Projectable) : Prop :=
  ∃ outcome, .redispatched p outcome ∈ T

theorem againIn_append {T U : List (Occurrence ι)} {p : Projectable} :
    AgainIn (T ++ U) p ↔ AgainIn T p ∨ AgainIn U p := by
  simp only [AgainIn, List.mem_append, exists_or]

/-- The projectable was dispatched again, and the routes could not be asked for it. -/
def RefusedIn (T : List (Occurrence ι)) (p : Projectable) : Prop :=
  .redispatched p (.error (.routing .poisoned)) ∈ T

theorem refusedIn_append {T U : List (Occurrence ι)} {p : Projectable} :
    RefusedIn (T ++ U) p ↔ RefusedIn T p ∨ RefusedIn U p := List.mem_append

namespace Dispatcher

variable [DecidableEq ι] {d : Dispatcher ι σ} {s s' : Site ι σ} {T : List (Occurrence ι)}
  {p : Projectable} {ps : List Projectable} {id : ProjectableId} {r : Outstanding}
  {rs : List Outstanding} {outcome : Except DispatchError Nat}

theorem Turn.again_or_isConfirmed (h : d.Turn p s outcome s' T) :
    AgainIn T p ∨ s'.confirmations.IsConfirmed p.id := by
  cases h with
  | skipped hconfirmed => exact Or.inr hconfirmed
  | refused => exact Or.inl ⟨_, List.mem_singleton_self _⟩
  | unrouted => exact Or.inl ⟨_, List.mem_singleton_self _⟩
  | handed => exact Or.inl ⟨_, List.mem_append_right _ (List.mem_singleton_self _)⟩

/-- A record that a turn leaves was there before, or it was made now.  Where the turn found
somebody, that of its projectable was made now. -/
theorem Turn.of_get? (h : d.Turn p s outcome s' T)
    (hr : s'.confirmations.pending.get? id = some r) :
    r.since = s.now ∨
      s.confirmations.pending.get? id = some r ∧ (id = p.id → ¬ FoundSomebody outcome) := by
  cases h with
  | skipped => exact Or.inr ⟨hr, fun _ h => h rfl⟩
  | refused => exact Or.inr ⟨hr, fun _ h => h rfl⟩
  | unrouted => exact Or.inr ⟨hr, fun _ h => h rfl⟩
  | handed hconfirmed _ _ _ hT =>
    have hmarked : (s.confirmations.markPending s.now p).pending.get? id = some r :=
      hT.records id r hr
    rw [Confirmations.get?_markPending hconfirmed] at hmarked
    split at hmarked
    · refine Or.inl ?_
      cases hmarked
      split <;> rfl
    · rename_i hid
      exact Or.inr ⟨hmarked, fun heq => absurd heq hid⟩

/-- A turn that fails found somebody, or the routes refused an answer. -/
theorem Turn.found_or_refusedIn {e : DispatchError} (h : d.Turn p s (.error e) s' T) :
    FoundSomebody (.error e) ∨ RefusedIn T p := by
  cases h with
  | refused => exact Or.inr (List.mem_singleton_self _)
  | handed _ hfound => exact Or.inl hfound

/-- Only poisoned routes refuse an answer. -/
theorem Turn.isPoisoned_of_refusedIn {q : Projectable} (h : d.Turn p s outcome s' T)
    (hq : RefusedIn T q) : s.router.isPoisoned := by
  cases h with
  | skipped => cases hq
  | refused _ hanswer => exact (Router.of_matching_error hanswer).2.1
  | unrouted => cases List.mem_singleton.1 hq
  | handed _ hfound _ _ hhands =>
    rcases List.mem_append.1 hq with hq | hq
    · obtain ⟨_, _, _, heq⟩ := hhands.invoked _ hq
      cases heq
    · cases List.mem_singleton.1 hq
      exact absurd rfl hfound

theorem Turns.isPoisoned_of_refusedIn {q : Projectable} (h : d.Turns ps s s' T)
    (hq : RefusedIn T q) : s.router.isPoisoned := by
  induction h with
  | nil => cases hq
  | cons hturn _ ih =>
    rcases refusedIn_append.1 hq with hq | hq
    · exact hturn.isPoisoned_of_refusedIn hq
    · rw [← hturn.isPoisoned]
      exact ih hq

theorem Turns.again_or_isConfirmed (h : d.Turns ps s s' T) (hp : p ∈ ps) :
    AgainIn T p ∨ s'.confirmations.IsConfirmed p.id := by
  induction h with
  | nil => cases hp
  | cons hturn hturns ih =>
    rw [againIn_append]
    rcases List.mem_cons.1 hp with rfl | hp
    · rcases hturn.again_or_isConfirmed with hagain | hconfirmed
      · exact Or.inl (Or.inl hagain)
      · exact Or.inr ((hturns.onward.confirmed _).2 (Or.inl hconfirmed))
    · exact (ih hp).imp_left Or.inr

/-- Turns make records that are of now, and no others. -/
theorem Turns.of_get? (h : d.Turns ps s s' T)
    (hr : s'.confirmations.pending.get? id = some r) :
    r.since = s.now ∨ s.confirmations.pending.get? id = some r := by
  induction h with
  | nil => exact Or.inr hr
  | cons hturn _ ih =>
    rcases ih hr with hnow | hr
    · exact Or.inl (hnow.trans hturn.now)
    · exact (hturn.of_get? hr).imp_right And.left

/-- A record that had no turn is kept, unless it was confirmed. -/
theorem Turns.get?_of_not_mem (h : d.Turns (rs.map Outstanding.projectable) s s' T)
    (hs : s.confirmations.Sound)
    (hrs : ∀ r' ∈ rs, s.confirmations.pending.get? r'.projectable.id = some r')
    (hr : s.confirmations.pending.get? r.projectable.id = some r) (hmissed : r ∉ rs)
    (hno : ¬ ConfirmedIn T r.projectable.id) :
    s'.confirmations.pending.get? r.projectable.id = some r := by
  -- no other record is of the same identity
  have hids : ∀ p ∈ rs.map Outstanding.projectable, p.id ≠ r.projectable.id := by
    intro p hp hid
    obtain ⟨r', hr', rfl⟩ := List.mem_map.1 hp
    have hsame := hrs r' hr'
    rw [hid, hr] at hsame
    exact hmissed (Option.some.inj hsame ▸ hr')
  exact (h.get?_eq hs hids hno).trans hr

end Dispatcher

/-! ### Rounds -/

namespace Watch

variable [DecidableEq ι]

/-- After these moves the projectable was dispatched again, or it is confirmed. -/
def HadTurn (w : Watch ι σ) (ms : List (Move ι σ)) (p : Projectable) : Prop :=
  AgainIn (w.done ms) p ∨ (w.run ms).site.confirmations.IsConfirmed p.id

/-- What was overdue at time `t`, oldest first. -/
def queue (w : Watch ι σ) (t : Int) : List Outstanding :=
  w.site.confirmations.overdueRecords t w.dispatcher.config.confirmationTimeout

/-- After these moves the projectable of a record had its turn, or one in front of it in what was
overdue at time `t` was refused an answer. -/
def HadTurnOrRefused (w : Watch ι σ) (ms : List (Move ι σ)) (t : Int) (r : Outstanding) : Prop :=
  w.HadTurn ms r.projectable ∨
    ∃ q ∈ w.queue t, q.rank < r.rank ∧ RefusedIn (w.done ms) q.projectable

/-- One round after the other, at these times. -/
def rounds (times : List Int) : List (Move ι σ) :=
  times.flatMap fun now => [.setClock now, .redispatchOverdue]

variable {w : Watch ι σ} {t : Int} {r q : Outstanding} {before after : List Outstanding}

theorem hadTurn_append_iff {ms ms' : List (Move ι σ)} {p : Projectable} :
    w.HadTurn (ms ++ ms') p ↔ w.HadTurn ms p ∨ (w.run ms).HadTurn ms' p := by
  unfold HadTurn
  rw [done_append, againIn_append, run_append, (onward_run (w.run ms) ms').confirmed]
  tauto

/-- Nothing enters the queue in a round. -/
theorem mem_queue_of_round (hs : w.site.confirmations.Sound) (ht : t ≤ w.site.now)
    (hq : q ∈ (w.run [.redispatchOverdue]).queue t) : q ∈ w.queue t := by
  obtain ⟨taken, rest, -, hturns⟩ := turns_redispatchOverdue w
  have hs' := (onward_run w [.redispatchOverdue]).sound hs
  obtain ⟨hget, hoverdue⟩ := hs'.mem_overdueRecords_iff.1 hq
  rcases hturns.of_get? hget with hnow | hget
  · exact absurd hoverdue (Outstanding.not_isOverdue_of_le (hnow ▸ ht))
  · exact hs.mem_overdueRecords_iff.2 ⟨hget, hoverdue⟩

/-- A round comes to everybody, or it comes to those in front of one and fails at this one. -/
theorem turns_queue (w : Watch ι σ) :
    (∃ T, w.dispatcher.Turns ((w.queue w.site.now).map Outstanding.projectable) w.site
      (w.run [.redispatchOverdue]).site T) ∨
    ∃ front q behind s T U e, w.queue w.site.now = front ++ q :: behind ∧
      w.dispatcher.Turns (front.map Outstanding.projectable) w.site s T ∧
      w.dispatcher.Turn q.projectable s (.error e) (w.run [.redispatchOverdue]).site U := by
  rcases w.dispatcher.redispatchEach_cases (w.dispatcher.overdue w.site) 0 w.site with
    ⟨n, s', T, heach, hT⟩ | ⟨front, p, behind, n, s, T, e, s', U, hps, -, hT, -, hU, heach⟩
  · obtain rfl : (w.run [.redispatchOverdue]).site = s' := congrArg Prod.snd heach
    exact Or.inl ⟨T, hT⟩
  · obtain rfl : (w.run [.redispatchOverdue]).site = s' := congrArg Prod.snd heach
    obtain ⟨front, rest, hqueue, rfl, hrest⟩ := List.map_eq_append_iff.1 hps
    obtain ⟨q, behind, rfl, rfl, -⟩ := List.map_eq_cons_iff.1 hrest
    exact Or.inr ⟨front, q, behind, s, T, U, e, hqueue, hT, hU⟩

/-- What a projection fails at in a round leaves the queue. -/
theorem not_mem_queue_of_failed {p : Projectable} {s : Site ι σ} {e : DispatchError}
    {U : List (Occurrence ι)} (hs : w.site.confirmations.Sound) (ht : t ≤ s.now)
    (hU : w.dispatcher.Turn p s (.error e) (w.run [.redispatchOverdue]).site U)
    (hfound : FoundSomebody (.error e)) (hq : q.projectable = p) :
    q ∉ (w.run [.redispatchOverdue]).queue t := by
  intro hmem
  have hs' := (onward_run w [.redispatchOverdue]).sound hs
  obtain ⟨hget, hoverdue⟩ := hs'.mem_overdueRecords_iff.1 hmem
  rcases hU.of_get? hget with hnow | ⟨-, hfailed⟩
  · exact Outstanding.not_isOverdue_of_le (hnow ▸ ht) hoverdue
  · exact hfailed (congrArg Projectable.id hq) hfound

/-- Who misses a round stays in the queue, and some failure in front of it leaves, unless that
was refused an answer. -/
theorem hadTurn_or_blocked (hs : w.site.confirmations.Sound) (ht : t ≤ w.site.now)
    (hr : r ∈ w.queue t) :
    w.HadTurnOrRefused [.redispatchOverdue] t r ∨
      r ∈ (w.run [.redispatchOverdue]).queue t ∧
        ∃ q ∈ w.queue t, q.rank < r.rank ∧ q ∉ (w.run [.redispatchOverdue]).queue t := by
  obtain ⟨hget, hoverdue⟩ := hs.mem_overdueRecords_iff.1 hr
  have hnow : r ∈ w.queue w.site.now := hs.mem_overdueRecords_iff.2 ⟨hget, hoverdue.of_le ht⟩
  rcases turns_queue w with ⟨T, hT⟩ | ⟨front, q, behind, s, T, U, e, hqueue, hT, hU⟩
  · refine Or.inl (Or.inl ?_)
    rw [HadTurn, done_eq hT.onward]
    exact hT.again_or_isConfirmed (List.mem_map_of_mem hnow)
  · have hturns := hT.concat hU
    have hdone : w.done [.redispatchOverdue] = T ++ U := done_eq hturns.onward
    have hfails := hU.found_or_refusedIn
    rw [← List.map_singleton, ← List.map_append] at hturns
    rw [List.append_cons] at hqueue
    have hq : q ∈ front ++ [q] := List.mem_append_right _ (List.mem_singleton_self q)
    have htaken {r' : Outstanding} (hr' : r' ∈ front ++ [q]) :
        w.site.confirmations.pending.get? r'.projectable.id = some r' :=
      (hs.mem_overdueRecords_iff.1 (hqueue ▸ List.mem_append_left _ hr')).1
    by_cases hturn : r ∈ front ++ [q]
    · refine Or.inl (Or.inl ?_)
      rw [HadTurn, hdone]
      exact hturns.again_or_isConfirmed (List.mem_map_of_mem hturn)
    · by_cases hconfirmed : ConfirmedIn (T ++ U) r.projectable.id
      · exact Or.inl (Or.inl (Or.inr ((hturns.onward.confirmed _).2 (Or.inr hconfirmed))))
      · -- `r` stands behind the failure
        have hbehind : r ∈ behind := (List.mem_append.1 (hqueue ▸ hnow)).resolve_left hturn
        have hrank : q.rank < r.rank := hs.rank_lt hqueue hq hbehind
        have hkept := hturns.get?_of_not_mem hs (fun _ => htaken) hget hturn hconfirmed
        have hs' := (onward_run w [.redispatchOverdue]).sound hs
        have hqueued : q ∈ w.queue t :=
          hs.mem_overdueRecords_iff.2 ⟨htaken hq, hoverdue.of_rank_lt hrank⟩
        rcases hfails with hfound | hrefused
        · refine Or.inr ⟨hs'.mem_overdueRecords_iff.2 ⟨hkept, hoverdue⟩, q, hqueued, hrank, ?_⟩
          exact not_mem_queue_of_failed hs (hT.now ▸ ht) hU hfound rfl
        · refine Or.inl (Or.inr ⟨q, hqueued, hrank, ?_⟩)
          rw [hdone, refusedIn_append]
          exact Or.inr hrefused

/-- Who misses a round has fewer in front of it afterwards. -/
theorem hadTurn_or_closer (hs : w.site.confirmations.Sound) (ht : t ≤ w.site.now)
    (hqueue : w.queue t = before ++ r :: after) :
    w.HadTurnOrRefused [.redispatchOverdue] t r ∨
      ∃ before' after', (w.run [.redispatchOverdue]).queue t = before' ++ r :: after' ∧
        before'.length < before.length := by
  have hr : r ∈ w.queue t := hqueue ▸ List.mem_append_right _ List.mem_cons_self
  refine (hadTurn_or_blocked hs ht hr).imp_right ?_
  rintro ⟨hkept, q, hq, hrank, hleft⟩
  obtain ⟨before', after', hqueue'⟩ := List.append_of_mem hkept
  refine ⟨before', after', hqueue', ?_⟩
  have hs' := (onward_run w [.redispatchOverdue]).sound hs
  have hnodup : before'.Nodup := by
    have hids := hs'.nodup_ids_overdueRecords t w.dispatcher.config.confirmationTimeout
    have hall : ((w.run [.redispatchOverdue]).queue t).Nodup := hids.of_map _
    rw [hqueue'] at hall
    exact (List.nodup_append.1 hall).1
  -- those in front were there before, and so was `q`, which is there no more
  have hsubset : ∀ r' ∈ before', r' ∈ before := by
    intro r' hr'
    obtain ⟨hmem, hlt⟩ := (hs'.mem_before_iff hqueue').1 hr'
    exact (hs.mem_before_iff hqueue).2 ⟨mem_queue_of_round hs ht hmem, hlt⟩
  have hgone : q ∉ before' := fun hmem => hleft (hqueue' ▸ List.mem_append_left _ hmem)
  have hsubperm : (q :: before').Subperm before :=
    List.subperm_of_subset (List.nodup_cons.2 ⟨hgone, hnodup⟩)
      (List.cons_subset.2 ⟨(hs.mem_before_iff hqueue).2 ⟨hq, hrank⟩, hsubset⟩)
  exact hsubperm.length_le

/-- Whoever has fewer in front of it than there are rounds has its turn, unless one of those was
refused an answer; by induction on the rounds. -/
theorem hadTurn_rounds {times : List Int} (hs : w.site.confirmations.Sound)
    (ht : ∀ now ∈ times, t ≤ now) (hqueue : w.queue t = before ++ r :: after)
    (hlength : before.length < times.length) : w.HadTurnOrRefused (rounds times) t r := by
  induction times generalizing w before after with
  | nil => cases hlength
  | cons now rest ih =>
    obtain ⟨hnow, hrest⟩ := List.forall_mem_cons.1 ht
    have hround : (rounds (now :: rest) : List (Move ι σ))
        = [.setClock now] ++ ([.redispatchOverdue] ++ rounds rest) := rfl
    rw [HadTurnOrRefused, hround, hadTurn_append_iff, hadTurn_append_iff, done_append, done_append]
    simp only [refusedIn_append]
    have hs₁ := (onward_run w [.setClock now]).sound hs
    rcases hadTurn_or_closer (w := w.run [.setClock now]) hs₁ hnow hqueue with
      (hturn | ⟨q, hq, hrank, hrefused⟩) | ⟨before', after', hqueue', hcloser⟩
    · exact Or.inl (Or.inr (Or.inl hturn))
    · exact Or.inr ⟨q, hq, hrank, Or.inr (Or.inl hrefused)⟩
    · have hs₂ := (onward_run (w.run [.setClock now]) [.redispatchOverdue]).sound hs₁
      rw [List.length_cons] at hlength
      rcases ih hs₂ hrest hqueue' (by omega) with hturn | ⟨q, hq, hrank, hrefused⟩
      · exact Or.inl (Or.inr (Or.inr hturn))
      · -- who is in the queue after a round was there before
        have hbefore : q ∈ (w.run [.setClock now]).queue t := mem_queue_of_round hs₁ hnow hq
        exact Or.inr ⟨q, hbefore, hrank, Or.inr (Or.inr hrefused)⟩

/-- Rounds are refused an answer only if the routes were poisoned before the first; by induction
on the rounds. -/
theorem isPoisoned_of_refusedIn {times : List Int} {p : Projectable}
    (h : RefusedIn (w.done (rounds times)) p) : w.site.router.isPoisoned := by
  induction times generalizing w with
  | nil =>
    have hnil : w.done (rounds []) = [] := done_eq (.refl w.site)
    rw [hnil] at h
    cases h
  | cons now rest ih =>
    have hround : (rounds (now :: rest) : List (Move ι σ))
        = [.setClock now] ++ ([.redispatchOverdue] ++ rounds rest) := rfl
    have hclock : w.done [.setClock now] = [] := done_eq (T := []) (.of_eq (.refl _) rfl rfl)
    rw [hround, done_append, done_append, refusedIn_append, refusedIn_append, hclock] at h
    rcases h with h | h | h
    · cases h
    · obtain ⟨_, _, -, hturns⟩ := turns_redispatchOverdue (w.run [.setClock now])
      exact hturns.isPoisoned_of_refusedIn h
    · have hsame := Dispatcher.isPoisoned_of_handles
        (w.dispatcher.handles_redispatchOverdue (w.run [.setClock now]).site)
      exact hsame.symm.trans (ih h)

/-- What is overdue at time `t` has its turn in the rounds at these times. -/
structure ServesInTurn (w : Watch ι σ) (t : Int) (times : List Int) : Prop where
  /-- It is dispatched again or confirmed, unless something in front of it was refused an answer. -/
  again : ∀ before p after,
    w.site.confirmations.overdue t w.dispatcher.config.confirmationTimeout
      = before ++ p :: after →
    w.HadTurn (rounds times) p ∨ ∃ q ∈ before, RefusedIn (w.done (rounds times)) q
  /-- Only poisoned routes refuse an answer. -/
  poisoned : ∀ q, RefusedIn (w.done (rounds times)) q → w.site.router.isPoisoned

/-- **A failure of projections starves nobody.**  What is overdue at some time is dispatched
again, or confirmed, within as many rounds from then on as there are such projectables, however
many of them fail; only those behind a projectable for which poisoned routes cannot be asked may
wait. -/
theorem again_rounds (w : Watch ι σ) {calls : List Confirmations.Call}
    (hw : w.site.confirmations = .after calls) {t : Int} {times : List Int}
    (ht : ∀ now ∈ times, t ≤ now)
    (hlength : (w.site.confirmations.overdue t w.dispatcher.config.confirmationTimeout).length
      ≤ times.length) : w.ServesInTurn t times := by
  have hs : w.site.confirmations.Sound := hw ▸ Confirmations.sound_after calls
  refine ⟨fun before p after hoverdue => ?_, fun _ => isPoisoned_of_refusedIn⟩
  obtain ⟨front, rest, hqueue, rfl, hrest⟩ := List.map_eq_append_iff.1 hoverdue
  obtain ⟨r, behind, rfl, rfl, -⟩ := List.map_eq_cons_iff.1 hrest
  have hfew : front.length < times.length := by
    rw [Confirmations.overdue, List.length_map, hqueue, List.length_append, List.length_cons]
      at hlength
    omega
  refine (hadTurn_rounds hs ht hqueue hfew).imp_right ?_
  rintro ⟨q, hq, hrank, hrefused⟩
  have hfront : q ∈ front := (hs.mem_before_iff hqueue).2 ⟨hq, hrank⟩
  exact ⟨_, List.mem_map_of_mem hfront, hrefused⟩

def timesOfCrowd : List Int := [31000000000, 31000000000, 40000000000, 90000000000]

/-- The third of four fails in the first round, and the fourth one, which misses it, has its turn
later. -/
theorem again_rounds_crowd :
    crowd.site.confirmations = .after (items.map (.markPending 0)) ∧
      (∀ now ∈ timesOfCrowd, 31000000000 ≤ now) ∧
      crowd.site.confirmations.overdue 31000000000 crowd.dispatcher.config.confirmationTimeout
        = items ∧
      ¬ crowd.HadTurn (rounds [31000000000]) (item "poor" "y") ∧
      crowd.ServesInTurn 31000000000 timesOfCrowd ∧
      ∀ p ∈ items, crowd.HadTurn (rounds timesOfCrowd) p := by
  have htimes : ∀ now ∈ timesOfCrowd, 31000000000 ≤ now := by decide
  have hoverdue : crowd.site.confirmations.overdue 31000000000
      crowd.dispatcher.config.confirmationTimeout = items := overdue_crowd
  have hlength : (crowd.site.confirmations.overdue 31000000000
      crowd.dispatcher.config.confirmationTimeout).length ≤ timesOfCrowd.length := by
    rw [hoverdue]
    decide
  have hserves := again_rounds crowd confirmations_crowd htimes hlength
  refine ⟨confirmations_crowd, htimes, hoverdue, ?_, hserves, ?_⟩
  · have hrun : (crowd.run (rounds [31000000000])).site
        = (crowd.dispatcher.redispatchEach items 0 crowd.site).2 := by
      rw [← overdue_crowd]
      rfl
    have hdone : crowd.done (rounds [31000000000]) =
        [.invoked true (item "good" "x")
            [⟨"good", "x", 1⟩, ⟨"good", "y", 1⟩, ⟨"good", "x", 1⟩] (.ok ()),
          .redispatched (item "good" "x") (.ok 1),
          .invoked false (item "poor" "x") [] (.error (.business "no")),
          .redispatched (item "poor" "x")
            (.error (.projection "second" .project ⟨"poor", "x", 1⟩ none (.business "no")))] := by
      rw [done, hrun]
      rfl
    have hgood : item "poor" "y" ≠ item "good" "x" := by decide
    have hpoor : item "poor" "y" ≠ item "poor" "x" := by decide
    rintro (⟨outcome, hmem⟩ | hconfirmed)
    · rw [hdone] at hmem
      simp [hgood, hpoor] at hmem
    · rw [hrun] at hconfirmed
      revert hconfirmed
      decide
  · intro p hp
    obtain ⟨before, after, hitems⟩ := List.append_of_mem hp
    refine (hserves.again before p after (hoverdue.trans hitems)).resolve_right ?_
    rintro ⟨q, -, hrefused⟩
    cases hserves.poisoned q hrefused

/-- As long as the routes cannot be asked for what is overdue longest, nothing else is dispatched
again. -/
theorem done_rounds_of_refused {p : Projectable} {rest : List Projectable}
    (hoverdue : w.dispatcher.overdue w.site = p :: rest)
    (hno : ¬ w.site.confirmations.IsConfirmed p.id)
    (hrefused : (w.site.router.matching p.becauseOf).1 = .error .poisoned) (n : Nat) :
    w.done (rounds (List.replicate n w.site.now))
      = List.replicate n (.redispatched p (.error (.routing .poisoned))) := by
  induction n generalizing w with
  | zero => exact done_eq (.refl w.site)
  | succ n ih =>
    -- such a round changes nothing but the trace, so the next one finds the same
    have hround : w.dispatcher.redispatchOverdue w.site
        = (.error (.routing .poisoned),
          w.site.note (.redispatched p (.error (.routing .poisoned)))) :=
      Dispatcher.redispatchOverdue_of_refused hoverdue hno hrefused
    have hsite : (w.run [.redispatchOverdue]).site
        = w.site.note (.redispatched p (.error (.routing .poisoned))) := congrArg Prod.snd hround
    have hone : w.done [.redispatchOverdue] = [.redispatched p (.error (.routing .poisoned))] := by
      rw [done, hsite]
      exact List.drop_left ..
    have hclock : w.run [.setClock w.site.now] = w := rfl
    have hnext := ih (w := w.run [.redispatchOverdue]) (by rw [hsite]; exact hoverdue)
      (by rw [hsite]; exact hno) (by rw [hsite]; exact hrefused)
    have hnow : (w.run [.redispatchOverdue]).site.now = w.site.now := by
      rw [hsite]
      rfl
    have hrounds : (rounds (List.replicate (n + 1) w.site.now) : List (Move ι σ))
        = [.setClock w.site.now] ++ ([.redispatchOverdue] ++
          rounds (List.replicate n w.site.now)) := rfl
    rw [hnow] at hnext
    rw [hrounds, done_append, hclock, done_append, hone, hnext, List.replicate_succ]
    have hnothing : w.done [.setClock w.site.now] = [] :=
      done_eq (T := []) (.of_eq (.refl _) rfl rfl)
    rw [hnothing]
    rfl

/-- The crowd, after a change of the routes broke off and left none. -/
def strandedCrowd : Watch Bool Script.State := crowd.run [.breakOff .empty]

/-- Four rounds for four projectables, and three of them do not have their turn. -/
theorem not_hadTurn_strandedCrowd :
    strandedCrowd.site.confirmations = .after (items.map (.markPending 0)) ∧
      strandedCrowd.dispatcher.overdue strandedCrowd.site = items ∧
      ∀ p ∈ items.tail, ¬ strandedCrowd.HadTurn
        (rounds (List.replicate items.length strandedCrowd.site.now)) p := by
  have hoverdue : strandedCrowd.dispatcher.overdue strandedCrowd.site = items := overdue_crowd
  have hconfirmations : strandedCrowd.site.confirmations = crowd.site.confirmations := rfl
  have hnobody (id : ProjectableId) : ¬ strandedCrowd.site.confirmations.IsConfirmed id := by
    rw [hconfirmations, confirmations_crowd]
    exact List.not_mem_nil
  have hdone := done_rounds_of_refused hoverdue (hnobody _) rfl items.length
  refine ⟨confirmations_crowd, hoverdue, ?_⟩
  rintro p hp (⟨outcome, hmem⟩ | hconfirmed)
  · rw [hdone] at hmem
    have hfirst : ∀ q ∈ items.tail, q ≠ item "good" "x" := by decide
    exact hfirst p hp (Occurrence.redispatched.inj (List.mem_replicate.1 hmem).2).1
  · rw [(onward_run strandedCrowd _).confirmed, hdone] at hconfirmed
    rcases hconfirmed with hconfirmed | ⟨_, _, _, _, hmem, -⟩
    · exact hnobody _ hconfirmed
    · cases (List.mem_replicate.1 hmem).2

end Watch

end EventJournal
