/-
EventJournal/Proofs/Dispatch/Redispatch.lean

What handing out again touches.

A round hands out again what is overdue when it begins, one projectable after the other.  The
list goes stale on the way: a projection may confirm what has not had its turn yet.  Four
things can happen at a turn (`Dispatcher.Turn`): it is skipped because the projectable is
confirmed by now, the routes cannot be asked, nobody is found, or the projectable is marked and
handed out.

So a turn changes no record but that of its own projectable, apart from what projections
confirm (`Turn.get?_eq`), and a round changes no records but those of the turns it comes to.
The journal grows by what the invoked projections append (`Dispatcher.Visits`).

Main result: `touchesOnlyOverdue`.  A failure counts as an attempt only if it was a projection
that failed, and one that confirms does not keep the projectable from those behind it
(`not_countsFailures_pairOfPeers`).
-/
import EventJournal.Proofs.Confirmations.Overdue
import EventJournal.Proofs.Dispatch.Delivery
import EventJournal.Proofs.Dispatch.Identity

namespace EventJournal

variable {ι σ : Type}

/-! ### What projections append -/

/-- The journal after some requests, one after the other. -/
def Journal.appendEach (j : Journal) (requests : List Append) : Journal :=
  requests.foldl (fun j request => (j.append request).2) j

theorem Journal.appendEach_append (j : Journal) (requests more : List Append) :
    j.appendEach (requests ++ more) = (j.appendEach requests).appendEach more :=
  List.foldl_append

namespace Reaction

/-- What a reaction asks the journal to append, in order. -/
def requests : Reaction σ → Journal → List Append
  | finish _ _, _ => []
  | confirm _ next, j => next.requests j
  | append request next, j =>
    request :: (next (j.append request).1).requests (j.append request).2

/-- A journal goes through the requests of a reaction one by one. -/
theorem journal_run (r : Reaction σ) (j : Journal) (c : Confirmations) :
    (r.run j c).journal = j.appendEach (r.requests j) := by
  induction r generalizing j c with
  | finish outcome state => rfl
  | confirm p next ih => exact ih j (c.confirm p)
  | append request next ih => exact ih _ _ c

/-- What a projection makes of its state does not depend on the bookkeeping. -/
theorem state_run (r : Reaction σ) (j : Journal) (c c' : Confirmations) :
    (r.run j c).state = (r.run j c').state := by
  induction r generalizing j c c' with
  | finish outcome state => rfl
  | confirm p next ih => exact ih j (c.confirm p) (c'.confirm p)
  | append request next ih => exact ih _ _ c c'

end Reaction

/-! ### Records -/

/-- Handing out keeps the records that no projection confirms. -/
theorem Site.Hands.get?_eq {s s' : Site ι σ} {p : Projectable} {T : List (Occurrence ι)}
    (h : s.Hands s' p T) (hs : s.confirmations.Sound) {id : ProjectableId}
    (hno : ¬ ConfirmedIn T id) : s'.confirmations.pending.get? id
      = s.confirmations.pending.get? id := by
  cases hr : s.confirmations.pending.get? id with
  | none =>
    refine Option.eq_none_iff_forall_ne_some.2 fun r' hr' => ?_
    rw [h.records id r' hr'] at hr
    cases hr
  | some r =>
    -- a record stays unless its identity was confirmed on the way
    have hpending : s.confirmations.IsPending id := Confirmations.isPending_iff.2 ⟨r, hr⟩
    have hunconfirmed : ¬ s'.confirmations.IsConfirmed id := by
      rw [h.confirmed]
      exact not_or.2 ⟨hs.apart id hpending, hno⟩
    have hpending' := (h.tracked id (Or.inl hpending)).resolve_right hunconfirmed
    obtain ⟨r', hr'⟩ := Confirmations.isPending_iff.1 hpending'
    rw [hr', ← hr, h.records id r' hr']

/-! ### Visits -/

namespace Dispatcher

variable [DecidableEq ι] {d : Dispatcher ι σ} {s s' s'' t : Site ι σ} {T U : List (Occurrence ι)}

/-- The site after projections were handed projectables, one after the other. -/
def visit (d : Dispatcher ι σ) (handed : List (ι × Projectable)) (s : Site ι σ) : Site ι σ :=
  handed.foldl (fun s h => (d.invoke h.1 h.2 s).2) s

/-- What these projections ask the journal to append. -/
def requests (d : Dispatcher ι σ) : List (ι × Projectable) → Site ι σ → List Append
  | [], _ => []
  | (i, p) :: rest, s =>
    ((d.projections i).project p (d.stateOf s i)).requests s.journal
      ++ d.requests rest (d.invoke i p s).2

/-- Visits append in the order in which they are made. -/
theorem journal_visit (d : Dispatcher ι σ) (handed : List (ι × Projectable)) (s : Site ι σ) :
    (d.visit handed s).journal = s.journal.appendEach (d.requests handed s) := by
  induction handed generalizing s with
  | nil => rfl
  | cons h rest ih =>
    obtain ⟨i, p⟩ := h
    have hfirst : (d.invoke i p s).2.journal = s.journal.appendEach
        (((d.projections i).project p (d.stateOf s i)).requests s.journal) :=
      Reaction.journal_run ..
    rw [requests, Journal.appendEach_append, ← hfirst]
    exact ih _

/-- The journal and the states of the projections come about by visits alone. -/
theorem visit_congr (d : Dispatcher ι σ) (handed : List (ι × Projectable))
    (hj : t.journal = s.journal) (hm : t.memory = s.memory) :
    (d.visit handed t).journal = (d.visit handed s).journal ∧
      (d.visit handed t).memory = (d.visit handed s).memory := by
  induction handed generalizing s t with
  | nil => exact ⟨hj, hm⟩
  | cons h rest ih =>
    obtain ⟨i, p⟩ := h
    have hstate : d.stateOf t i = d.stateOf s i := by
      rw [stateOf, stateOf, hm]
    refine ih ?_ ?_
    · show (d.reaction i p t).journal = (d.reaction i p s).journal
      rw [reaction, reaction, Reaction.journal_run, Reaction.journal_run, hstate, hj]
    · show t.memory.insert i (d.reaction i p t).state = s.memory.insert i (d.reaction i p s).state
      rw [reaction, reaction, hstate, hj, hm, Reaction.state_run]

/-- Work leads from site `s` to site `s'` over the stretch `T`, and of what it did the visits
alone show in the journal and in the states of the projections. -/
structure Visits (d : Dispatcher ι σ) (s s' : Site ι σ) (T : List (Occurrence ι)) : Prop where
  trace : s'.trace = s.trace ++ T
  journal : s'.journal = (d.visit (T.filterMap Occurrence.invocation?) s).journal
  memory : s'.memory = (d.visit (T.filterMap Occurrence.invocation?) s).memory

namespace Visits

theorem refl (d : Dispatcher ι σ) (s : Site ι σ) : d.Visits s s [] :=
  ⟨(List.append_nil _).symm, rfl, rfl⟩

theorem trans (h : d.Visits s s' T) (h' : d.Visits s' s'' U) : d.Visits s s'' (T ++ U) := by
  have hvisit := d.visit_congr (U.filterMap Occurrence.invocation?) h.journal h.memory
  have happend (s : Site ι σ) : d.visit ((T ++ U).filterMap Occurrence.invocation?) s
      = d.visit (U.filterMap Occurrence.invocation?)
        (d.visit (T.filterMap Occurrence.invocation?) s) := by
    rw [visit, List.filterMap_append, List.foldl_append]
    rfl
  refine ⟨?_, ?_, ?_⟩
  · rw [h'.trace, h.trace, List.append_assoc]
  · rw [h'.journal, hvisit.1, happend]
  · rw [h'.memory, hvisit.2, happend]

/-- Something that is no invocation was noted besides. -/
theorem note (h : d.Visits s s' T) {o : Occurrence ι} (ho : o.invocation? = none) :
    d.Visits s (s'.note o) (T ++ [o]) := by
  have hone : d.Visits s' (s'.note o) [o] := by
    refine ⟨rfl, ?_, ?_⟩ <;> rw [List.filterMap_cons_none ho] <;> rfl
  exact h.trans hone

end Visits

/-- A failure cuts the visits short, and those before it show. -/
theorem visits_invokeAll (d : Dispatcher ι σ) (p : Projectable) (is : List ι) (s : Site ι σ) :
    ∃ T, d.Visits s (d.invokeAll p is s).2 T := by
  induction is generalizing s with
  | nil => exact ⟨[], .refl d s⟩
  | cons i rest ih =>
    have hfirst : d.Visits s (d.invoke i p s).2
        [.invoked i p (d.reaction i p s).confirmed (d.reaction i p s).outcome] := ⟨rfl, rfl, rfl⟩
    rw [invokeAll]
    split <;> rename_i heq <;> rw [heq] at hfirst
    · exact ⟨_, hfirst⟩
    · obtain ⟨T, hT⟩ := ih _
      exact ⟨_, hfirst.trans hT⟩

/-- A dispatch shows in the journal by its visits alone. -/
theorem visits_dispatch (d : Dispatcher ι σ) (p : Projectable) (s : Site ι σ) :
    ∃ T, d.Visits s (d.dispatch p s).2 T := by
  -- asking the router and marking change neither the journal nor a state
  have hasked : d.Visits s (asked s p.becauseOf) [] := ⟨(List.append_nil _).symm, rfl, rfl⟩
  have hmarked : d.Visits s (marked s p) [] := ⟨(List.append_nil _).symm, rfl, rfl⟩
  have hall (found : List ι) : ∃ T, d.Visits s (d.invokeAll p found (marked s p)).2 T := by
    obtain ⟨T, hT⟩ := d.visits_invokeAll p found (marked s p)
    exact ⟨[] ++ T, hmarked.trans hT⟩
  rcases hd : d.dispatch p s with ⟨outcome, s'⟩
  cases Dispatches.of_dispatch hd with
  | refused => exact ⟨[], .refl d s⟩
  | unrouted => exact ⟨[], hasked⟩
  | @failed found _ _ _ _ hinvoke | @handled found _ _ _ hinvoke =>
    obtain ⟨T, hT⟩ := hall found
    rw [hinvoke] at hT
    exact ⟨T, hT⟩

/-- Noting that something was handed out again does not show there. -/
theorem visits_redispatch (d : Dispatcher ι σ) (p : Projectable) (s : Site ι σ) :
    ∃ T, d.Visits s (d.redispatch p s).2 T := by
  unfold redispatch
  split
  · exact ⟨[], .refl d s⟩
  · obtain ⟨T, hT⟩ := d.visits_dispatch p s
    exact ⟨_, hT.note rfl⟩

/-- A round is a row of visits. -/
theorem visits_redispatchEach (d : Dispatcher ι σ) (ps : List Projectable) (done : Nat)
    (s : Site ι σ) : ∃ T, d.Visits s (d.redispatchEach ps done s).2 T := by
  induction ps generalizing done s with
  | nil => exact ⟨[], .refl d s⟩
  | cons p rest ih =>
    obtain ⟨T, hT⟩ := d.visits_redispatch p s
    rw [redispatchEach]
    split <;> rename_i heq <;> rw [heq] at hT
    · exact ⟨T, hT⟩
    · obtain ⟨U, hU⟩ := ih _ _
      exact ⟨T ++ U, hT.trans hU⟩

/-! ### Turns -/

/-- The clock stands still while things are handed out. -/
theorem now_of_handles (h : d.Handles s s') : s'.now = s.now := by
  induction h with
  | refl => rfl
  | tail _ hstep ih => cases hstep <;> exact ih

/-- What can happen at the turn of a projectable. -/
inductive Turn (d : Dispatcher ι σ) (p : Projectable) (s : Site ι σ) :
    Except DispatchError Nat → Site ι σ → List (Occurrence ι) → Prop
  /-- It is confirmed by now. -/
  | skipped : s.confirmations.IsConfirmed p.id → Turn d p s (.ok 0) s []
  /-- The routes cannot be asked. -/
  | refused : ¬ s.confirmations.IsConfirmed p.id →
      (s.router.matching p.becauseOf).1 = .error .poisoned →
      Turn d p s (.error (.routing .poisoned))
        (s.note (.redispatched p (.error (.routing .poisoned))))
        [.redispatched p (.error (.routing .poisoned))]
  /-- Nobody gets it. -/
  | unrouted : ¬ s.confirmations.IsConfirmed p.id → (s.router.matching p.becauseOf).1 = .ok [] →
      Turn d p s (.ok 0) ((asked s p.becauseOf).note (.redispatched p (.ok 0)))
        [.redispatched p (.ok 0)]
  /-- It is marked and handed to projections. -/
  | handed {outcome : Except DispatchError Nat} {s' : Site ι σ} {T : List (Occurrence ι)} :
      ¬ s.confirmations.IsConfirmed p.id → FoundSomebody outcome → s'.now = s.now →
      s'.router.isPoisoned = s.router.isPoisoned → (marked s p).Hands s' p T →
      Turn d p s outcome (s'.note (.redispatched p outcome)) (T ++ [.redispatched p outcome])

/-- Every projectable has one of these turns. -/
theorem turn_redispatch (d : Dispatcher ι σ) (p : Projectable) (s : Site ι σ) :
    ∃ T, d.Turn p s (d.redispatch p s).1 (d.redispatch p s).2 T := by
  unfold redispatch
  split
  · rename_i hconfirmed
    exact ⟨[], .skipped hconfirmed⟩
  · rename_i hconfirmed
    show ∃ T, d.Turn p s (d.dispatch p s).1
      ((d.dispatch p s).2.note (.redispatched p (d.dispatch p s).1)) T
    rcases d.dispatch_cases p s with ⟨hanswer, hrefused⟩ | ⟨hanswer, hnone⟩ | ⟨T, hfound, hT⟩
    · rw [hrefused]
      exact ⟨_, .refused hconfirmed hanswer⟩
    · rw [hnone]
      exact ⟨_, .unrouted hconfirmed hanswer⟩
    · have hhandles := d.handles_dispatch p s
      exact ⟨_, .handed hconfirmed hfound (now_of_handles hhandles)
        (isPoisoned_of_handles hhandles) hT⟩

namespace Turn

variable {p q : Projectable} {id : ProjectableId} {outcome : Except DispatchError Nat}

/-- The clock stands still at a turn. -/
theorem now (h : d.Turn p s outcome s' T) : s'.now = s.now := by
  cases h with
  | skipped => rfl
  | refused => rfl
  | unrouted => rfl
  | handed _ _ hnow => exact hnow

theorem isPoisoned (h : d.Turn p s outcome s' T) :
    s'.router.isPoisoned = s.router.isPoisoned := by
  cases h with
  | skipped => rfl
  | refused => rfl
  | unrouted => exact Router.isPoisoned_matching ..
  | handed _ _ _ hsame => exact hsame

/-- Whatever happens at a turn leads onward. -/
theorem onward (h : d.Turn p s outcome s' T) : s.Onward s' T := by
  have hroute : s.Onward (asked s p.becauseOf) [] := .of_eq (.refl _) rfl rfl
  cases h with
  | skipped => exact .refl s
  | refused => exact .note _ (by simp)
  | unrouted => exact hroute.trans (.note _ (by simp))
  | handed _ _ _ _ hT =>
    have hmark := hroute.trans (onward_mark _ p)
    exact (hmark.trans hT.toOnward).trans (.note _ (by simp))

/-- A turn hands out its own projectable only, which is not confirmed then. -/
theorem of_invoked (h : d.Turn p s outcome s' T) {before later : List (Occurrence ι)} {i : ι}
    {confirmed : List ProjectableId} {result : Except ProjectionError Unit}
    (hT : T = before ++ .invoked i q confirmed result :: later) :
    q = p ∧ ¬ s.confirmations.IsConfirmed p.id ∧
      ∀ o ∈ before, ∃ i' confirmed' result', o = .invoked i' p confirmed' result' := by
  cases h with
  | skipped => cases before <;> cases hT
  | refused | unrouted =>
    cases before with
    | nil => cases hT
    | cons o before => cases before <;> cases hT
  | handed hconfirmed _ _ _ hhands =>
    -- the outcome is noted last, so what comes before an invocation are invocations
    rcases List.eq_nil_or_concat later with rfl | ⟨later, o, rfl⟩
    · cases (List.append_inj' hT rfl).2
    · rw [List.concat_eq_append, ← List.cons_append, ← List.append_assoc] at hT
      have hinit := (List.append_inj' hT rfl).1
      obtain ⟨i', confirmed', result', heq⟩ := hhands.invoked (.invoked i q confirmed result)
        (by rw [hinit]; simp)
      cases heq
      exact ⟨rfl, hconfirmed, fun o ho => hhands.invoked o (by rw [hinit]; simp [ho])⟩

/-- A turn keeps the records of other projectables. -/
theorem get?_eq (h : d.Turn p s outcome s' T) (hs : s.confirmations.Sound) (hid : id ≠ p.id)
    (hno : ¬ ConfirmedIn T id) :
    s'.confirmations.pending.get? id = s.confirmations.pending.get? id := by
  cases h with
  | skipped => rfl
  | refused => rfl
  | unrouted => rfl
  | handed hconfirmed _ _ _ hT =>
    have hkept := hT.get?_eq (hs.markPending s.now p) (mt (confirmedIn_append.2 ∘ Or.inl) hno)
    refine hkept.trans ?_
    show (s.confirmations.markPending s.now p).pending.get? id = _
    rw [Confirmations.get?_markPending hconfirmed, if_neg hid]

end Turn

/-- What was done since `s` leads to an invocation with `p`, which was not confirmed when its turn
came: neither in `s` nor by what was done before its turn. -/
def UnconfirmedAtTurn (s : Site ι σ) (p : Projectable) (before : List (Occurrence ι)) : Prop :=
  ∃ earlier turn, before = earlier ++ turn ∧
    (∀ o ∈ turn, ∃ i confirmed outcome, o = .invoked i p confirmed outcome) ∧
    (∀ i confirmed outcome, .invoked i p confirmed outcome ∉ earlier) ∧
    ¬ s.confirmations.IsConfirmed p.id ∧ ¬ ConfirmedIn earlier p.id

/-- Turns, one after the other. -/
inductive Turns (d : Dispatcher ι σ) :
    List Projectable → Site ι σ → Site ι σ → List (Occurrence ι) → Prop
  | nil (s : Site ι σ) : Turns d [] s s []
  | cons {p : Projectable} {ps : List Projectable} {outcome : Except DispatchError Nat}
      {s s₁ s' : Site ι σ} {T U : List (Occurrence ι)} :
      d.Turn p s outcome s₁ T → Turns d ps s₁ s' U → Turns d (p :: ps) s s' (T ++ U)

namespace Turns

variable {p q : Projectable} {ps : List Projectable} {id : ProjectableId}
  {outcome : Except DispatchError Nat}

/-- A turn may be added at the end, as it is found when a round is read from the front. -/
theorem concat (h : d.Turns ps s s' T) (h' : d.Turn p s' outcome s'' U) :
    d.Turns (ps ++ [p]) s s'' (T ++ U) := by
  induction h with
  | nil s =>
    have hlast := Turns.cons h' (.nil s'')
    rwa [List.append_nil] at hlast
  | cons hturn _ ih =>
    rw [List.append_assoc]
    exact .cons hturn (ih h')

/-- The clock stands still for the whole round. -/
theorem now (h : d.Turns ps s s' T) : s'.now = s.now := by
  induction h with
  | nil => rfl
  | cons hturn _ ih => exact ih.trans hturn.now

theorem onward (h : d.Turns ps s s' T) : s.Onward s' T := by
  induction h with
  | nil s => exact .refl s
  | cons hturn _ ih => exact hturn.onward.trans ih

/-- Turns keep the records of those who have none. -/
theorem get?_eq (h : d.Turns ps s s' T) (hs : s.confirmations.Sound) (hid : ∀ p ∈ ps, p.id ≠ id)
    (hno : ¬ ConfirmedIn T id) :
    s'.confirmations.pending.get? id = s.confirmations.pending.get? id := by
  induction h with
  | nil => rfl
  | cons hturn _ ih =>
    obtain ⟨hp, hps⟩ := List.forall_mem_cons.1 hid
    rw [confirmedIn_append, not_or] at hno
    rw [ih (hturn.onward.sound hs) hps hno.2]
    exact hturn.get?_eq hs hp.symm hno.1

/-- What is handed out has a turn, and was not confirmed before it. -/
theorem of_invoked (h : d.Turns ps s s' T) (hps : (ps.map Projectable.id).Nodup)
    {before later : List (Occurrence ι)} {i : ι} {confirmed : List ProjectableId}
    {result : Except ProjectionError Unit}
    (hT : T = before ++ .invoked i q confirmed result :: later) :
    q ∈ ps ∧ UnconfirmedAtTurn s q before := by
  induction h generalizing before with
  | nil => cases before <;> cases hT
  | @cons p ps outcome s s₁ s' T U hturn _ ih =>
    rw [List.map_cons, List.nodup_cons] at hps
    -- either the invocation belongs to a later turn, or to this one
    have hlater (rest : List (Occurrence ι)) (hbefore : before = T ++ rest)
        (hU : U = rest ++ .invoked i q confirmed result :: later) :
        q ∈ p :: ps ∧ UnconfirmedAtTurn s q before := by
      obtain ⟨hq, earlier, turn, rfl, hown, hother, hunconfirmed, hno⟩ := ih hps.2 hU
      rw [hturn.onward.confirmed, not_or] at hunconfirmed
      refine ⟨List.mem_cons_of_mem _ hq, T ++ earlier, turn, ?_, hown, ?_, hunconfirmed.1, ?_⟩
      · rw [hbefore, List.append_assoc]
      · intro i' confirmed' result' hmem
        rcases List.mem_append.1 hmem with hmem | hmem
        · obtain ⟨T₁, T₂, hT'⟩ := List.append_of_mem hmem
          obtain ⟨rfl, -⟩ := hturn.of_invoked hT'
          exact hps.1 (List.mem_map_of_mem hq)
        · exact hother i' confirmed' result' hmem
      · rw [confirmedIn_append]
        exact not_or.2 ⟨hunconfirmed.2, hno⟩
    rcases List.append_eq_append_iff.1 hT with ⟨rest, hbefore, hU⟩ | ⟨rest, hown, hU⟩
    · exact hlater rest hbefore hU
    · cases rest with
      | nil => exact hlater [] (by simpa using hown.symm) hU.symm
      | cons o rest =>
        obtain ⟨rfl, -⟩ := List.cons.inj hU
        -- this turn comes first, so nothing was done before it in the round
        obtain ⟨rfl, hunconfirmed, hturns⟩ := hturn.of_invoked hown
        refine ⟨List.mem_cons_self, [], before, rfl, hturns, by simp, hunconfirmed, ?_⟩
        rintro ⟨_, _, _, _, hmem, -⟩
        cases hmem

end Turns

/-! ### Rounds -/

/-- A round comes to all its turns, or it ends at the first that fails. -/
theorem redispatchEach_cases (d : Dispatcher ι σ) (ps : List Projectable) (done : Nat)
    (s : Site ι σ) :
    (∃ n s' T, d.redispatchEach ps done s = (.ok n, s') ∧ d.Turns ps s s' T) ∨
    ∃ before p after n s₁ T e s' U, ps = before ++ p :: after ∧
      d.redispatchEach before done s = (.ok n, s₁) ∧ d.Turns before s s₁ T ∧
      d.redispatch p s₁ = (.error e, s') ∧ d.Turn p s₁ (.error e) s' U ∧
      d.redispatchEach ps done s = (.error e, s') := by
  induction ps generalizing done s with
  | nil => exact Or.inl ⟨done, s, [], rfl, .nil s⟩
  | cons p rest ih =>
    obtain ⟨T, hT⟩ := d.turn_redispatch p s
    rcases hp : d.redispatch p s with ⟨e | n, s₁⟩ <;> rw [hp] at hT
    · refine Or.inr ⟨[], p, rest, done, s, [], e, s₁, T, rfl, rfl, .nil s, hp, hT, ?_⟩
      rw [redispatchEach, hp]
    · have hnext (ps : List Projectable) : d.redispatchEach (p :: ps) done s
          = d.redispatchEach ps (if 0 < n then done + 1 else done) s₁ := by
        rw [redispatchEach, hp]
      rw [hnext]
      -- `p` had its turn without a failure, so it belongs to those in front
      rcases ih (if 0 < n then done + 1 else done) s₁ with ⟨m, s', U, hrest, hU⟩ |
        ⟨before, q, after, m, s₂, U, e, s', V, rfl, hbefore, hU, hq, hV, hrest⟩
      · exact Or.inl ⟨m, s', _, hrest, .cons hT hU⟩
      · rw [← hnext] at hbefore
        exact Or.inr ⟨p :: before, q, after, m, s₂, _, e, s', V, rfl, hbefore, .cons hT hU, hq, hV,
          hrest⟩

/-- A turn that fails found a projection that fails, or poisoned routes. -/
theorem of_redispatch_error {p : Projectable} {e : DispatchError}
    (h : d.redispatch p s = (.error e, s')) :
    (FoundSomebody (.error e) ∧ ∃ i source, e = d.failure i p source) ∨
      e = .routing .poisoned ∧ s.router.isPoisoned ∧
        s' = s.note (.redispatched p (.error (.routing .poisoned))) := by
  unfold redispatch at h
  split at h
  · cases h
  · rcases hd : d.dispatch p s with ⟨outcome, s₁⟩
    rw [hd] at h
    cases h
    rcases exists_of_dispatch_error hd with ⟨hanswer, rfl, rfl⟩ | ⟨found, -, i, -, source, rfl⟩
    · exact Or.inr ⟨rfl, (Router.of_matching_error hanswer).2.1, rfl⟩
    · exact Or.inl ⟨nofun, i, source, rfl⟩

/-- A projectable that is handed out has one more attempt on record, made now, unless some
projection confirms it. -/
theorem Turn.get?_again {p : Projectable} {outcome : Except DispatchError Nat}
    (h : d.Turn p s outcome s' T) (hfound : FoundSomebody outcome) (hs : s.confirmations.Sound)
    (hno : ¬ ConfirmedIn T p.id) {r : Outstanding}
    (hr : s.confirmations.pending.get? p.id = some r) :
    s'.confirmations.pending.get? p.id = some (r.again s.now) := by
  cases h with
  | skipped => exact absurd rfl hfound
  | refused => exact absurd rfl hfound
  | unrouted => exact absurd rfl hfound
  | handed hconfirmed _ _ _ hT =>
    have hkept := hT.get?_eq (hs.markPending s.now p) (mt (confirmedIn_append.2 ∘ Or.inl) hno)
    refine hkept.trans ?_
    show (s.confirmations.markPending s.now p).pending.get? p.id = _
    rw [Confirmations.get?_markPending hconfirmed, if_pos rfl, hr]

/-- If the routes refuse to answer for what is overdue longest, the round ends there, and nothing
but this is noted. -/
theorem redispatchOverdue_of_refused {p : Projectable} {rest : List Projectable}
    (hoverdue : d.overdue s = p :: rest) (hno : ¬ s.confirmations.IsConfirmed p.id)
    (hrefused : (s.router.matching p.becauseOf).1 = .error .poisoned) :
    d.redispatchOverdue s
      = (.error (.routing .poisoned),
        s.note (.redispatched p (.error (.routing .poisoned)))) := by
  rw [redispatchOverdue, hoverdue, redispatchEach, redispatch_of_unconfirmed d hno,
    dispatch_of_refused hrefused]

omit [DecidableEq ι] in
/-- What is reported as overdue is on record. -/
theorem mem_overdue_iff (d : Dispatcher ι σ) (hs : s.confirmations.Sound) {p : Projectable} :
    p ∈ d.overdue s ↔ ∃ r, s.confirmations.pending.get? p.id = some r ∧ r.projectable = p ∧
      r.IsOverdue s.now d.config.confirmationTimeout := by
  constructor
  · intro hp
    obtain ⟨r, hr, rfl⟩ := List.mem_map.1 hp
    obtain ⟨hget, hoverdue⟩ := hs.mem_overdueRecords_iff.1 hr
    exact ⟨r, hget, rfl, hoverdue⟩
  · rintro ⟨r, hget, rfl, hoverdue⟩
    exact List.mem_map.2 ⟨r, hs.mem_overdueRecords_iff.2 ⟨hget, hoverdue⟩, rfl⟩

omit [DecidableEq ι] in
/-- What is overdue is listed once for each identity. -/
theorem nodup_ids_overdue (d : Dispatcher ι σ) (hs : s.confirmations.Sound) :
    ((d.overdue s).map Projectable.id).Nodup := by
  unfold overdue Confirmations.overdue
  rw [List.map_map]
  exact hs.nodup_ids_overdueRecords s.now d.config.confirmationTimeout

omit [DecidableEq ι] in
/-- No identity is overdue twice. -/
theorem id_ne_of_overdue (d : Dispatcher ι σ) (hs : s.confirmations.Sound) {p q : Projectable}
    {before after : List Projectable} (h : d.overdue s = before ++ after) (hq : q ∈ before)
    (hp : p ∈ after) : q.id ≠ p.id := by
  have hnodup := d.nodup_ids_overdue hs
  rw [h, List.map_append] at hnodup
  exact (List.nodup_append.1 hnodup).2.2 _ (List.mem_map_of_mem hq) _ (List.mem_map_of_mem hp)

end Dispatcher

/-! ### Frames -/

namespace Watch

variable [DecidableEq ι]

/-- A run keeps the record of an identity, unless some projection confirms it. -/
def KeepsRecord (w : Watch ι σ) (ms : List (Move ι σ)) (id : ProjectableId) : Prop :=
  ¬ ConfirmedIn (w.done ms) id →
    (w.run ms).site.confirmations.pending.get? id = w.site.confirmations.pending.get? id

/-- A round fails with `e` at `p`, which stands behind `before` and in front of `after` in what is
overdue. -/
structure FailsAt (w : Watch ι σ) (e : DispatchError) (before : List Projectable) (p : Projectable)
    (after : List Projectable) : Prop where
  overdue : w.dispatcher.overdue w.site = before ++ p :: after
  /-- Nothing fails before. -/
  first : ∃ n s, w.dispatcher.redispatchEach before 0 w.site = (.ok n, s) ∧
    w.dispatcher.redispatch p s = (.error e, (w.run [.redispatchOverdue]).site)
  /-- What is behind keeps its record. -/
  kept : ∀ q ∈ after, w.KeepsRecord [.redispatchOverdue] q.id
  tracked : (w.run [.redispatchOverdue]).site.confirmations.Tracks p.id
  recorded : w.site.confirmations.IsPending p.id
  /-- If a projection failed, one more attempt is on record, made now, unless it is confirmed.
  If the routes could not be asked, the record is kept. -/
  failed :
    ((∃ i source, e = w.dispatcher.failure i p source) ∧
      ∀ r, w.site.confirmations.pending.get? p.id = some r →
        ¬ ConfirmedIn (w.done [.redispatchOverdue]) p.id →
        (w.run [.redispatchOverdue]).site.confirmations.pending.get? p.id
          = some (r.again w.site.now)) ∨
    (e = .routing .poisoned ∧ w.site.router.isPoisoned ∧ w.KeepsRecord [.redispatchOverdue] p.id)

/-- A round touches nothing but what is overdue and still waits for its turn. -/
structure TouchesOnlyOverdue (w : Watch ι σ) : Prop where
  /-- What is handed out is overdue, and when its turn came it was confirmed neither before the
  round nor earlier in it. -/
  unconfirmed : ∀ before later i p confirmed outcome,
    w.done [.redispatchOverdue] = before ++ .invoked i p confirmed outcome :: later →
    p ∈ w.dispatcher.overdue w.site ∧ Dispatcher.UnconfirmedAtTurn w.site p before
  /-- What is once confirmed is not handed out again, however much happens before. -/
  settled : ∀ ms ms' id, (w.run ms).site.confirmations.IsConfirmed id →
    (∀ p, p.id = id → (w.run (ms ++ ms')).dispatcher.redispatch p (w.run (ms ++ ms')).site
      = (.ok 0, (w.run (ms ++ ms')).site)) ∧
    ∀ i p confirmed outcome,
      .invoked i p confirmed outcome ∈ (w.run (ms ++ ms')).done [.redispatchOverdue] → p.id ≠ id
  cursor : (w.run [.redispatchOverdue]).site.cursor = w.site.cursor
  /-- The journal grows by what the invoked projections append. -/
  journal : (w.run [.redispatchOverdue]).site.journal = w.site.journal.appendEach
    (w.dispatcher.requests
      ((w.done [.redispatchOverdue]).filterMap Occurrence.invocation?) w.site)
  /-- What is not overdue keeps its record. -/
  notOverdue : ∀ id, (∀ p ∈ w.dispatcher.overdue w.site, p.id ≠ id) →
    w.KeepsRecord [.redispatchOverdue] id
  /-- The first failure ends the round. -/
  failed : ∀ e, (w.dispatcher.redispatchOverdue w.site).1 = .error e →
    ∃ before p after, w.FailsAt e before p after

variable {w : Watch ι σ}

/-- A round is a row of turns of what is overdue, from the first on. -/
theorem turns_redispatchOverdue (w : Watch ι σ) : ∃ taken rest,
    w.dispatcher.overdue w.site = taken ++ rest ∧ w.dispatcher.Turns taken w.site
      (w.run [.redispatchOverdue]).site (w.done [.redispatchOverdue]) := by
  rcases w.dispatcher.redispatchEach_cases (w.dispatcher.overdue w.site) 0 w.site with
    ⟨n, s', T, heach, hT⟩ | ⟨before, p, after, n, s₁, T, e, s', U, hps, -, hT, -, hU, heach⟩
  · obtain rfl : (w.run [.redispatchOverdue]).site = s' := congrArg Prod.snd heach
    rw [done_eq hT.onward]
    exact ⟨_, [], (List.append_nil _).symm, hT⟩
  · obtain rfl : (w.run [.redispatchOverdue]).site = s' := congrArg Prod.snd heach
    have hturns := hT.concat hU
    rw [done_eq hturns.onward]
    refine ⟨before ++ [p], after, ?_, hturns⟩
    rw [hps, List.append_assoc, List.singleton_append]

/-- What is handed out in a round was not confirmed when its turn came. -/
theorem of_invoked_redispatchOverdue (hs : w.site.confirmations.Sound)
    {before later : List (Occurrence ι)} {i : ι} {p : Projectable}
    {confirmed : List ProjectableId} {outcome : Except ProjectionError Unit}
    (hdone : w.done [.redispatchOverdue] = before ++ .invoked i p confirmed outcome :: later) :
    p ∈ w.dispatcher.overdue w.site ∧ Dispatcher.UnconfirmedAtTurn w.site p before := by
  obtain ⟨taken, rest, hoverdue, hturns⟩ := turns_redispatchOverdue w
  have hnodup := w.dispatcher.nodup_ids_overdue hs
  rw [hoverdue, List.map_append] at hnodup
  obtain ⟨hp, hturn⟩ := hturns.of_invoked (List.nodup_append.1 hnodup).1 hdone
  exact ⟨hoverdue ▸ List.mem_append_left _ hp, hturn⟩

/-- The journal grows by what the projections append that a round invokes. -/
theorem journal_redispatchOverdue (w : Watch ι σ) :
    (w.run [.redispatchOverdue]).site.journal = w.site.journal.appendEach
      (w.dispatcher.requests
        ((w.done [.redispatchOverdue]).filterMap Occurrence.invocation?) w.site) := by
  obtain ⟨T, hT⟩ := w.dispatcher.visits_redispatchEach (w.dispatcher.overdue w.site) 0 w.site
  have htrace : (w.run [.redispatchOverdue]).site.trace = w.site.trace ++ T := hT.trace
  have hdone : w.done [.redispatchOverdue] = T := by
    rw [done, htrace, List.drop_left]
  rw [hdone, ← Dispatcher.journal_visit]
  exact hT.journal

/-- A round that fails ends at the first failure. -/
theorem failed_redispatchOverdue (hs : w.site.confirmations.Sound) {e : DispatchError}
    (he : (w.dispatcher.redispatchOverdue w.site).1 = .error e) :
    ∃ before p after, w.FailsAt e before p after := by
  rcases w.dispatcher.redispatchEach_cases (w.dispatcher.overdue w.site) 0 w.site with
    ⟨n, s', T, heach, -⟩ | ⟨before, p, after, n, s₁, T, e', s', U, hps, hbefore, hT, hp, hU, heach⟩
  · cases he.symm.trans (congrArg Prod.fst heach)
  · obtain rfl : (w.run [.redispatchOverdue]).site = s' := congrArg Prod.snd heach
    obtain rfl : e = e' := Except.error.inj (he.symm.trans (congrArg Prod.fst heach))
    have hturns := hT.concat hU
    have hdone : w.done [.redispatchOverdue] = T ++ U := done_eq hturns.onward
    have hmem : p ∈ w.dispatcher.overdue w.site := by
      rw [hps]
      exact List.mem_append_right _ List.mem_cons_self
    obtain ⟨r, hr, -, -⟩ := (w.dispatcher.mem_overdue_iff hs).1 hmem
    have hpending := Confirmations.isPending_iff.2 ⟨r, hr⟩
    -- those in front leave the record alone
    have hfront : ∀ q ∈ before, q.id ≠ p.id :=
      fun _ hq => w.dispatcher.id_ne_of_overdue hs hps hq List.mem_cons_self
    refine ⟨before, p, after, hps, ⟨n, s₁, hbefore, hp⟩, ?_, ?_, hpending, ?_⟩
    · intro q hq hno
      rw [hdone] at hno
      rw [List.append_cons] at hps
      exact hturns.get?_eq hs (fun _ hq' => w.dispatcher.id_ne_of_overdue hs hps hq' hq) hno
    · exact (onward_run w [.redispatchOverdue]).tracked p.id (Or.inl hpending)
    · rw [KeepsRecord, hdone]
      rcases Dispatcher.of_redispatch_error hp with ⟨hfound, hsource⟩ | ⟨rfl, hpoisoned, hs'⟩
      · refine Or.inl ⟨hsource, fun r' hr' hno => ?_⟩
        rw [confirmedIn_append, not_or] at hno
        -- the turns in front left the record of `p` alone
        have hr₁ : s₁.confirmations.pending.get? p.id = some r' :=
          (hT.get?_eq hs hfront hno.1).trans hr'
        rw [← hT.now]
        exact hU.get?_again hfound (hT.onward.sound hs) hno.2 hr₁
      · have hsame := Dispatcher.isPoisoned_of_handles
          (w.dispatcher.handles_redispatchEach before 0 w.site)
        rw [hbefore] at hsame
        refine Or.inr ⟨rfl, hsame.symm.trans hpoisoned, fun hno => ?_⟩
        rw [hs']
        exact hT.get?_eq hs hfront (mt (confirmedIn_append.2 ∘ Or.inl) hno)

/-- **Handing out again touches only what it should**, in every state of the bookkeeping, under
every router and whatever the projections do. -/
theorem touchesOnlyOverdue (w : Watch ι σ) {calls : List Confirmations.Call}
    (hw : w.site.confirmations = .after calls) : w.TouchesOnlyOverdue := by
  have hsound : w.site.confirmations.Sound := hw ▸ Confirmations.sound_after calls
  refine ⟨?_, ?_, ?_, journal_redispatchOverdue w, ?_, ?_⟩
  · intro before later i p confirmed outcome hdone
    exact of_invoked_redispatchOverdue hsound hdone
  · intro ms ms' id hid
    -- what was confirmed stays confirmed in every later state
    have hlater := onward_run (w.run ms) ms'
    rw [← run_append] at hlater
    have hconfirmed := (hlater.confirmed id).2 (Or.inl hid)
    refine ⟨?_, ?_⟩
    · rintro p rfl
      exact if_pos hconfirmed
    · rintro i p confirmed outcome hmem rfl
      obtain ⟨before, later, hdone⟩ := List.append_of_mem hmem
      have hsound' := (onward_run w (ms ++ ms')).sound hsound
      obtain ⟨-, _, _, -, -, -, hunconfirmed, -⟩ := of_invoked_redispatchOverdue hsound' hdone
      exact hunconfirmed hconfirmed
  · obtain ⟨T, hT⟩ := Dispatcher.aside_of_handles (w.dispatcher.handles_redispatchOverdue w.site)
    exact hT.cursor
  · intro id hid hno
    obtain ⟨taken, rest, hoverdue, hturns⟩ := turns_redispatchOverdue w
    refine hturns.get?_eq hsound (fun p hp => hid p ?_) hno
    rw [hoverdue]
    exact List.mem_append_left _ hp
  · intro e he
    exact failed_redispatchOverdue hsound he

/-- Something that is handed out for its type. -/
def item (type data : String) : Projectable := .ofState ⟨type, data, 1⟩ .null [type]

def items : List Projectable :=
  [item "good" "x", item "good" "y", item "poor" "x", item "poor" "y"]

/-- Four things are out for longer than the timeout.  The first projection is for two of them; it
confirms nothing before its third turn, and then what it has seen.  The second one fails. -/
def crowd : Watch Bool Script.State :=
  let projections (isFirst : Bool) := Script.projection
    (if isFirst then { name := "first", actions := [.silent, .silent, .confirmSeen] }
    else { name := "second", default := .fail (.business "no") })
  (Watch.start (fun _ => default) projections fun _ _ => .resume).run
    ([.register ⟨true, ["good"], "first", List.cons_ne_nil _ _⟩,
      .register ⟨false, ["poor"], "second", List.cons_ne_nil _ _⟩]
      ++ items.map .dispatch ++ [.setClock 31000000000])

theorem confirmations_crowd :
    crowd.site.confirmations = .after (items.map (.markPending 0)) := rfl

/-- All four are overdue, in the order in which they were handed out. -/
theorem overdue_crowd : crowd.dispatcher.overdue crowd.site = items := by
  unfold Dispatcher.overdue Confirmations.overdue
  rw [Confirmations.overdueRecords_of_pairwise (by decide)]
  rfl

/-- The second of four is confirmed before its turn, the third one fails and the last one keeps
its record. -/
theorem touchesOnlyOverdue_crowd :
    crowd.site.confirmations = .after (items.map (.markPending 0)) ∧ crowd.TouchesOnlyOverdue ∧
      (crowd.dispatcher.redispatchOverdue crowd.site).1
        = .error (.projection "second" .project ⟨"poor", "x", 1⟩ none (.business "no")) ∧
      (crowd.done [.redispatchOverdue]).filterMap Occurrence.invocation?
        = [(true, item "good" "x"), (false, item "poor" "x")] ∧
      (crowd.run [.redispatchOverdue]).site.confirmations.confirmed
        = [⟨"good", "y", 1⟩, ⟨"good", "x", 1⟩] ∧
      (crowd.run [.redispatchOverdue]).site.confirmations.pending.values
        = [⟨item "poor" "x", 31000000000, 2⟩, ⟨item "poor" "y", 0, 1⟩] := by
  have hround : crowd.dispatcher.redispatchOverdue crowd.site
      = crowd.dispatcher.redispatchEach items 0 crowd.site := by
    rw [Dispatcher.redispatchOverdue, overdue_crowd]
  have hsite : (crowd.run [.redispatchOverdue]).site
      = (crowd.dispatcher.redispatchOverdue crowd.site).2 := rfl
  refine ⟨confirmations_crowd, touchesOnlyOverdue crowd confirmations_crowd, ?_, ?_, ?_, ?_⟩
  · rw [hround]
    rfl
  · rw [done, hsite, hround]
    rfl
  · rw [hsite, hround]
    rfl
  · rw [hsite, hround]
    rfl

/-- A failed round raises the number of attempts at what failed, and sets its time. -/
def CountsFailures (w : Watch ι σ) : Prop :=
  ∀ e before p after, w.FailsAt e before p after →
    ¬ ConfirmedIn (w.done [.redispatchOverdue]) p.id →
    ∃ r r', w.site.confirmations.pending.get? p.id = some r ∧
      (w.run [.redispatchOverdue]).site.confirmations.pending.get? p.id = some r' ∧
      r'.attempts = r.attempts + 1 ∧ r'.since = w.site.now

/-- No projection is handed what is confirmed by then. -/
def HandsUnconfirmed (w : Watch ι σ) : Prop :=
  ∀ before later i p confirmed outcome,
    w.done [.redispatchOverdue] = before ++ .invoked i p confirmed outcome :: later →
    ¬ w.site.confirmations.IsConfirmed p.id ∧ ¬ ConfirmedIn before p.id

/-- One thing is out for longer than the timeout, and it is for both projections.  The first one
confirms it when it gets it the second time. -/
def pairOfPeers : Watch Bool Script.State :=
  let projections (isFirst : Bool) := Script.projection
    (if isFirst then { name := "first", actions := [.silent, .confirm] }
    else { name := "second", default := .silent })
  (Watch.start (fun _ => default) projections fun _ _ => .resume).run
    [.register ⟨true, ["good"], "first", List.cons_ne_nil _ _⟩,
      .register ⟨false, ["*"], "second", Route.star_ne_nil⟩,
      .dispatch (item "good" "x"), .setClock 31000000000]

theorem overdue_pairOfPeers :
    pairOfPeers.dispatcher.overdue pairOfPeers.site = [item "good" "x"] := by
  unfold Dispatcher.overdue Confirmations.overdue
  rw [Confirmations.overdueRecords_of_pairwise (by decide)]
  rfl

/-- Poisoned routes fail a round without an attempt. -/
theorem not_countsFailures_of_breakOff : ¬ (pairOfPeers.run [.breakOff .empty]).CountsFailures := by
  intro hcounts
  let w := pairOfPeers.run [.breakOff .empty]
  have hoverdue : w.dispatcher.overdue w.site = [item "good" "x"] := overdue_pairOfPeers
  have hround : w.dispatcher.redispatchOverdue w.site = (.error (.routing .poisoned),
      w.site.note (.redispatched (item "good" "x") (.error (.routing .poisoned)))) :=
    Dispatcher.redispatchOverdue_of_refused hoverdue List.not_mem_nil rfl
  have hsite : (w.run [.redispatchOverdue]).site = _ := congrArg Prod.snd hround
  have hdone : w.done [.redispatchOverdue]
      = [.redispatched (item "good" "x") (.error (.routing .poisoned))] := by
    rw [done, hsite]
    exact List.drop_left ..
  have hsound : w.site.confirmations.Sound := Confirmations.sound_after [.markPending 0 _]
  obtain ⟨before, p, after, hfails⟩ :=
    failed_redispatchOverdue hsound (congrArg Prod.fst hround)
  have hno : ¬ ConfirmedIn (w.done [.redispatchOverdue]) p.id := by
    rintro ⟨_, _, _, _, hmem, -⟩
    rw [hdone] at hmem
    cases List.mem_singleton.1 hmem
  obtain ⟨r, r', hr, hr', -, hsince⟩ := hcounts _ _ _ _ hfails hno
  -- the record is kept, so it is still of the time 0
  rw [hsite] at hr'
  obtain rfl : r = r' := Option.some.inj (hr.symm.trans hr')
  obtain rfl : p = item "good" "x" := by
    rw [← List.mem_singleton, ← hoverdue, hfails.overdue]
    exact List.mem_append_right _ List.mem_cons_self
  have hrecord : w.site.confirmations.pending.get? (item "good" "x").id
      = some ⟨item "good" "x", 0, 1⟩ := rfl
  cases hr.symm.trans hrecord
  cases hsince

/-- The second projection is handed what the first one has just confirmed. -/
theorem not_handsUnconfirmed_pairOfPeers : ¬ pairOfPeers.HandsUnconfirmed := by
  intro hhands
  have hround : pairOfPeers.dispatcher.redispatchOverdue pairOfPeers.site
      = pairOfPeers.dispatcher.redispatchEach [item "good" "x"] 0 pairOfPeers.site := by
    rw [Dispatcher.redispatchOverdue, overdue_pairOfPeers]
  have hsite : (pairOfPeers.run [.redispatchOverdue]).site
      = (pairOfPeers.dispatcher.redispatchEach [item "good" "x"] 0 pairOfPeers.site).2 :=
    congrArg Prod.snd hround
  have hdone : pairOfPeers.done [.redispatchOverdue] =
      [.invoked true (item "good" "x") [⟨"good", "x", 1⟩] (.ok ()),
        .invoked false (item "good" "x") [] (.ok ()),
        .redispatched (item "good" "x") (.ok 2)] := by
    rw [done, hsite]
    rfl
  have hunconfirmed := (hhands [.invoked true (item "good" "x") [⟨"good", "x", 1⟩] (.ok ())]
    [.redispatched (item "good" "x") (.ok 2)] false (item "good" "x") [] (.ok ()) hdone).2
  exact hunconfirmed ⟨true, item "good" "x", [⟨"good", "x", 1⟩], .ok (),
    List.mem_singleton_self _, List.mem_singleton_self _⟩

/-- In one turn a projection is handed what is confirmed by then, and not every failure counts as
an attempt. -/
theorem not_countsFailures_pairOfPeers :
    pairOfPeers.site.confirmations = .after [.markPending 0 (item "good" "x")] ∧
      ¬ (pairOfPeers.run [.breakOff .empty]).CountsFailures ∧ ¬ pairOfPeers.HandsUnconfirmed :=
  ⟨rfl, not_countsFailures_of_breakOff, not_handsUnconfirmed_pairOfPeers⟩

end Watch

end EventJournal
