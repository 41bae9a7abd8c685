/-
EventJournal/Proofs/Dispatch/Handling.lean

What handing things out does to a site, said once for all of a dispatcher's work.

Apart from reading on, everything a dispatcher does is made of five steps: it asks the
router, marks a projectable pending, hands a projectable that is pending or confirmed to
a projection, resets a projection, and notes that it handed something out again.
`Handling` lists the steps, and each function of the dispatcher is a chain of them
(`handles_dispatch`, `handles_redispatchOverdue`, `handles_resetNamed`).

To dispatch one projectable ends in one of four ways (`Dispatches`), and whatever is proved of
dispatching goes through them.  An error is the routes', with nothing changed at all, or it names
the projection that failed (`exists_of_dispatch_error`).

`Site.Onward` is what every step keeps, chains included: the journal is extended by
operations, the trace grows, an identity is confirmed exactly if it was before or some
projection confirms it now, and an identity that was handed out stays pending or
confirmed.  The steps of `Handling` besides leave the cursor alone and note nothing that
belongs to reading on (`aside_of_handles`).
-/
import EventJournal.Dispatch.Dispatcher
import EventJournal.Proofs.Confirmations
import EventJournal.Proofs.Journal.History
import EventJournal.Proofs.Routing.Remembered
import Mathlib.Logic.Relation

namespace EventJournal

variable {ι σ : Type}

/-! ### Reactions -/

namespace Reaction

/-- Reactions only append to the journal, by induction on what is done. -/
theorem extends_run (r : Reaction σ) (j : Journal) (c : Confirmations) :
    j.Extends (r.run j c).journal := by
  induction r generalizing j c with
  | finish outcome state => exact .refl j
  | confirm p next ih => exact ih j (c.confirm p)
  | append request next ih => exact (j.extends_append request).trans (ih _ _ c)

/-- A reaction takes no confirmation back and adds the ones it reports. -/
theorem isConfirmed_run (r : Reaction σ) (j : Journal) (c : Confirmations) (id : ProjectableId) :
    (r.run j c).confirmations.IsConfirmed id ↔ c.IsConfirmed id ∨ id ∈ (r.run j c).confirmed := by
  induction r generalizing j c with
  | finish outcome state => simp
  | confirm p next ih =>
    -- what `p` adds stands in front of what the rest of the reaction adds
    show (next.run j (c.confirm p)).confirmations.IsConfirmed id ↔
      c.IsConfirmed id ∨ id ∈ p.id :: (next.run j (c.confirm p)).confirmed
    rw [ih, Confirmations.isConfirmed_confirm, List.mem_cons, or_assoc, or_left_comm]
  | append request next ih => exact ih _ _ c

/-- A reaction may turn what is pending into confirmed, but nothing drops out of the bookkeeping. -/
theorem tracks_run (r : Reaction σ) (j : Journal) {c : Confirmations} {id : ProjectableId}
    (h : c.Tracks id) : (r.run j c).confirmations.Tracks id := by
  induction r generalizing j c with
  | finish outcome state => exact h
  | confirm p next ih => exact ih j (h.confirm p)
  | append request next ih => exact ih _ _ h

theorem sound_run (r : Reaction σ) (j : Journal) {c : Confirmations} (h : c.Sound) :
    (r.run j c).confirmations.Sound := by
  induction r generalizing j c with
  | finish outcome state => exact h
  | confirm p next ih => exact ih j (h.confirm p)
  | append request next ih => exact ih _ _ h

end Reaction

/-! ### What every step keeps -/

/-- The projection `i` confirms the identity in this stretch of a trace. -/
def ConfirmedBy (T : List (Occurrence ι)) (i : ι) (id : ProjectableId) : Prop :=
  ∃ p confirmed outcome, Occurrence.invoked i p confirmed outcome ∈ T ∧ id ∈ confirmed

/-- Some projection confirms the identity in this stretch of a trace. -/
def ConfirmedIn (T : List (Occurrence ι)) (id : ProjectableId) : Prop :=
  ∃ i, ConfirmedBy T i id

/-- Confirmed on the way through two stretches is confirmed in one of them. -/
theorem confirmedIn_append {T U : List (Occurrence ι)} {id : ProjectableId} :
    ConfirmedIn (T ++ U) id ↔ ConfirmedIn T id ∨ ConfirmedIn U id := by
  constructor
  · rintro ⟨i, p, confirmed, outcome, hmem, hid⟩
    rcases List.mem_append.1 hmem with hmem | hmem
    · exact Or.inl ⟨i, p, confirmed, outcome, hmem, hid⟩
    · exact Or.inr ⟨i, p, confirmed, outcome, hmem, hid⟩
  · rintro (⟨i, p, confirmed, outcome, hmem, hid⟩ | ⟨i, p, confirmed, outcome, hmem, hid⟩)
    · exact ⟨i, p, confirmed, outcome, List.mem_append_left _ hmem, hid⟩
    · exact ⟨i, p, confirmed, outcome, List.mem_append_right _ hmem, hid⟩

namespace Site

/-- Work leads from site `s` to site `s'`, and `T` is what was done on the way. -/
structure Onward (s s' : Site ι σ) (T : List (Occurrence ι)) : Prop where
  trace : s'.trace = s.trace ++ T
  journal : s.journal.Extends s'.journal
  sound : s.confirmations.Sound → s'.confirmations.Sound
  confirmed : ∀ id, s'.confirmations.IsConfirmed id ↔
    s.confirmations.IsConfirmed id ∨ ConfirmedIn T id
  tracked : ∀ id, s.confirmations.Tracks id → s'.confirmations.Tracks id
  handed : ∀ i p confirmed outcome, Occurrence.invoked i p confirmed outcome ∈ T →
    s'.confirmations.Tracks p.id

namespace Onward

variable {s s' s'' : Site ι σ} {T U : List (Occurrence ι)}

/-- Stretches of work are put one behind the other. -/
theorem trans (h : s.Onward s' T) (h' : s'.Onward s'' U) : s.Onward s'' (T ++ U) where
  trace := by rw [h'.trace, h.trace, List.append_assoc]
  journal := h.journal.trans h'.journal
  sound hs := h'.sound (h.sound hs)
  confirmed id := by rw [h'.confirmed, h.confirmed, confirmedIn_append, or_assoc]
  tracked id hid := h'.tracked id (h.tracked id hid)
  handed i p confirmed outcome hmem := by
    rcases List.mem_append.1 hmem with hmem | hmem
    · exact h'.tracked _ (h.handed i p confirmed outcome hmem)
    · exact h'.handed i p confirmed outcome hmem

/-- A step that touches neither the confirmations nor the trace. -/
theorem of_eq (hj : s.journal.Extends s'.journal) (hc : s'.confirmations = s.confirmations)
    (ht : s'.trace = s.trace) : s.Onward s' [] where
  trace := by rw [ht, List.append_nil]
  journal := hj
  sound hs := by rwa [hc]
  confirmed id := by simp [hc, ConfirmedIn, ConfirmedBy]
  tracked id hid := by rwa [hc]
  handed _ _ _ _ hmem := by cases hmem

theorem refl (s : Site ι σ) : s.Onward s [] := of_eq (.refl _) rfl rfl

/-- Noting anything but an invocation. -/
theorem note (s : Site ι σ) {o : Occurrence ι}
    (ho : ∀ i p confirmed outcome, o ≠ .invoked i p confirmed outcome) :
    s.Onward (s.note o) [o] where
  trace := rfl
  journal := .refl _
  sound hs := hs
  confirmed id := by
    have hno : ¬ ConfirmedIn [o] id := by
      rintro ⟨i, p, confirmed, outcome, hmem, -⟩
      exact ho i p confirmed outcome (List.mem_singleton.1 hmem).symm
    simp [Site.note, hno]
  tracked _ hid := hid
  handed i p confirmed outcome hmem :=
    absurd (List.mem_singleton.1 hmem).symm (ho i p confirmed outcome)

theorem seek (s : Site ι σ) (position : Nat) : s.Onward (s.seek position) [] :=
  of_eq (.refl _) rfl rfl

theorem readNext (s : Site ι σ) (most : Nat) : s.Onward (s.readNext most).2 [] := by
  unfold Site.readNext
  split <;> exact of_eq (.refl _) rfl rfl

end Onward

end Site

/-! ### Steps of handing out -/

/-- What is noted does not belong to reading on: it is neither an entry that was dispatched
in its turn nor a decision about a cycle. -/
def Occurrence.IsAside : Occurrence ι → Prop
  | .dispatched _ _ => False
  | .decided .cycle _ _ _ _ => False
  | _ => True

/-- Work beside reading on, which leaves the cursor alone. -/
structure Site.Aside (s s' : Site ι σ) (T : List (Occurrence ι)) : Prop
    extends Site.Onward s s' T where
  cursor : s'.cursor = s.cursor
  aside : ∀ o ∈ T, o.IsAside

theorem Site.Aside.refl (s : Site ι σ) : s.Aside s [] := ⟨.refl s, rfl, by simp⟩

theorem Site.Aside.trans {s s' s'' : Site ι σ} {T U : List (Occurrence ι)} (h : s.Aside s' T)
    (h' : s'.Aside s'' U) : s.Aside s'' (T ++ U) where
  toOnward := h.toOnward.trans h'.toOnward
  cursor := h'.cursor.trans h.cursor
  aside o ho := by
    rcases List.mem_append.1 ho with ho | ho
    · exact h.aside o ho
    · exact h'.aside o ho

namespace Dispatcher

variable [DecidableEq ι]

/-- One step of handing something out. -/
inductive Handling (d : Dispatcher ι σ) : Site ι σ → Site ι σ → Prop
  | ask (s : Site ι σ) (reasons : List String) :
      Handling d s { s with router := (s.router.matching reasons).2 }
  | mark (s : Site ι σ) (p : Projectable) :
      Handling d s { s with confirmations := s.confirmations.markPending s.now p }
  | invoke (s : Site ι σ) (i : ι) (p : Projectable) :
      s.confirmations.Tracks p.id → Handling d s (d.invoke i p s).2
  | reset (s : Site ι σ) (i : ι) (outcome : Except ProjectionError Unit) (state : σ) :
      Handling d s ({ s with memory := s.memory.insert i state }.note (.wasReset i outcome))
  | noteAgain (s : Site ι σ) (p : Projectable) (outcome : Except DispatchError Nat) :
      Handling d s (s.note (.redispatched p outcome))

/-- Steps of handing out, one after the other. -/
def Handles (d : Dispatcher ι σ) : Site ι σ → Site ι σ → Prop :=
  Relation.ReflTransGen d.Handling

variable {d : Dispatcher ι σ}

omit [DecidableEq ι] in
/-- Marking confirms nobody: an identity that is confirmed is left as it is. -/
theorem onward_mark (s : Site ι σ) (p : Projectable) :
    s.Onward { s with confirmations := s.confirmations.markPending s.now p } [] where
  trace := (List.append_nil _).symm
  journal := .refl _
  sound hs := hs.markPending s.now p
  confirmed id := by simp [Confirmations.isConfirmed_markPending, ConfirmedIn, ConfirmedBy]
  tracked id hid := hid.markPending s.now p
  handed _ _ _ _ hmem := by cases hmem

/-- The projectable is handed out while it is tracked, and whatever the projection confirms
meanwhile, it stays so. -/
theorem onward_invoke (s : Site ι σ) (i : ι) {p : Projectable}
    (h : s.confirmations.Tracks p.id) :
    s.Onward (d.invoke i p s).2
      [.invoked i p (d.reaction i p s).confirmed (d.reaction i p s).outcome] where
  trace := rfl
  journal := Reaction.extends_run ..
  sound hs := Reaction.sound_run _ _ hs
  confirmed id := by
    -- the one occurrence of the trace lists what the reaction confirmed
    refine (Reaction.isConfirmed_run _ _ _ id).trans (or_congr_right ?_)
    simp [ConfirmedIn, ConfirmedBy, reaction]
  tracked id hid := Reaction.tracks_run _ _ hid
  handed i' p' confirmed outcome hmem := by
    cases List.mem_singleton.1 hmem
    exact Reaction.tracks_run _ _ h

/-- No step reads on.  Each notes one occurrence at most, and none that belongs to a cycle. -/
theorem aside_of_handling {s s' : Site ι σ} (h : d.Handling s s') : ∃ T, s.Aside s' T := by
  cases h with
  | ask reasons => exact ⟨[], .of_eq (.refl _) rfl rfl, rfl, by simp⟩
  | mark p => exact ⟨[], onward_mark s p, rfl, by simp⟩
  | invoke i p hp => exact ⟨_, onward_invoke s i hp, rfl, by simp [Occurrence.IsAside]⟩
  | reset i outcome state =>
    refine ⟨[.wasReset i outcome], ?_, rfl, by simp [Occurrence.IsAside]⟩
    -- a new memory is no occurrence; the reset itself is noted behind it
    have hmemory : s.Onward { s with memory := s.memory.insert i state } [] :=
      .of_eq (.refl _) rfl rfl
    exact hmemory.trans (.note _ (by simp))
  | noteAgain p outcome =>
    exact ⟨[.redispatched p outcome], .note s (by simp), rfl, by simp [Occurrence.IsAside]⟩

/-- Nor does a chain of steps, whose traces are put together by induction. -/
theorem aside_of_handles {s s' : Site ι σ} (h : d.Handles s s') : ∃ T, s.Aside s' T := by
  induction h with
  | refl => exact ⟨[], .refl s⟩
  | tail _ hstep ih =>
    obtain ⟨T, hT⟩ := ih
    obtain ⟨U, hU⟩ := aside_of_handling hstep
    exact ⟨T ++ U, hT.trans hU⟩

/-- Whether the routes can be asked is for nobody at work to change. -/
theorem isPoisoned_of_handles {s s' : Site ι σ} (h : d.Handles s s') :
    s'.router.isPoisoned = s.router.isPoisoned := by
  induction h with
  | refl => rfl
  | tail _ hstep ih =>
    cases hstep with
    | ask reasons => exact (Router.isPoisoned_matching ..).trans ih
    | _ => exact ih

/-- Nor is what they answer: what is asked on the way changes no answer. -/
theorem answers_of_handles {s s' : Site ι σ} (h : d.Handles s s') (reasons : List String) :
    (s'.router.matching reasons).1 = (s.router.matching reasons).1 := by
  induction h with
  | refl => rfl
  | tail _ hstep ih =>
    cases hstep with
    | ask asked => exact (Router.answers_matching ..).trans ih
    | _ => exact ih

/-! ### One projectable -/

omit [DecidableEq ι] in
/-- How it is reported that a projection failed at a projectable. -/
def failure (d : Dispatcher ι σ) (i : ι) (p : Projectable) (source : ProjectionError) :
    DispatchError :=
  .projection (d.projections i).name .project p.id p.globalPosition source

/-- What is reported of projections is how one of them failed. -/
theorem exists_of_invokeAll_error {p : Projectable} {is : List ι} {s s' : Site ι σ}
    {err : DispatchError} (h : d.invokeAll p is s = (.error err, s')) :
    ∃ i ∈ is, ∃ source, err = d.failure i p source := by
  induction is generalizing s with
  | nil => cases h
  | cons i rest ih =>
    rw [invokeAll] at h
    split at h
    · cases h
      exact ⟨i, List.mem_cons_self, _, rfl⟩
    · obtain ⟨i', hi', hsource⟩ := ih h
      exact ⟨i', List.mem_cons_of_mem _ hi', hsource⟩

/-- The site after its router was asked for some reasons. -/
def asked (s : Site ι σ) (reasons : List String) : Site ι σ :=
  { s with router := (s.router.matching reasons).2 }

/-- The site after its router was asked for a projectable that was then marked pending. -/
def marked (s : Site ι σ) (p : Projectable) : Site ι σ :=
  { asked s p.becauseOf with confirmations := s.confirmations.markPending s.now p }

/-- How it can end to dispatch a projectable: with which outcome and on which site. -/
inductive Dispatches (d : Dispatcher ι σ) (p : Projectable) (s : Site ι σ) :
    Except DispatchError Nat → Site ι σ → Prop
  /-- The routes cannot be asked.  Nothing is changed. -/
  | refused : (s.router.matching p.becauseOf).1 = .error .poisoned →
      Dispatches d p s (.error (.routing .poisoned)) s
  /-- The projectable is for nobody. -/
  | unrouted : (s.router.matching p.becauseOf).1 = .ok [] →
      Dispatches d p s (.ok 0) (asked s p.becauseOf)
  /-- Some projection fails. -/
  | failed {found : List ι} {err : DispatchError} {s' : Site ι σ} :
      (s.router.matching p.becauseOf).1 = .ok found → found ≠ [] →
      d.invokeAll p found (marked s p) = (.error err, s') → Dispatches d p s (.error err) s'
  /-- Everybody who gets the projectable handles it. -/
  | handled {found : List ι} {s' : Site ι σ} :
      (s.router.matching p.becauseOf).1 = .ok found → found ≠ [] →
      d.invokeAll p found (marked s p) = (.ok (), s') → Dispatches d p s (.ok found.length) s'

/-- Routes that cannot be asked are the first exit: neither the bookkeeping nor the router is
touched. -/
theorem dispatch_of_refused {p : Projectable} {s : Site ι σ}
    (h : (s.router.matching p.becauseOf).1 = .error .poisoned) :
    d.dispatch p s = (.error (.routing .poisoned), s) := by
  -- a router that refuses is the router as it was
  have hanswer : s.router.matching p.becauseOf = (.error .poisoned, s.router) :=
    Prod.ext h (Router.of_matching_error h).2.2.2
  unfold dispatch
  rw [hanswer]

/-- If the routes answer, a dispatch is over when nobody is found, and hands out what it marked
otherwise. -/
theorem dispatch_of_found {p : Projectable} {s : Site ι σ} {found : List ι}
    (h : (s.router.matching p.becauseOf).1 = .ok found) :
    d.dispatch p s =
      if found = [] then (.ok 0, asked s p.becauseOf)
      else ((d.invokeAll p found (marked s p)).1.map fun _ => found.length,
        (d.invokeAll p found (marked s p)).2) := by
  have hanswer : s.router.matching p.becauseOf = (.ok found, (s.router.matching p.becauseOf).2) :=
    Prod.ext h rfl
  unfold dispatch
  rw [hanswer]
  dsimp only
  split
  · rfl
  · split <;> rename_i s' hall <;>
      rw [show d.invokeAll p found (marked s p) = (_, s') from hall] <;> rfl

/-- To dispatch a projectable ends in one of these ways. -/
theorem dispatches_dispatch (d : Dispatcher ι σ) (p : Projectable) (s : Site ι σ) :
    d.Dispatches p s (d.dispatch p s).1 (d.dispatch p s).2 := by
  cases h : (s.router.matching p.becauseOf).1 with
  | error e =>
    obtain rfl := (Router.of_matching_error h).1
    rw [dispatch_of_refused h]
    exact .refused h
  | ok found =>
    rw [dispatch_of_found h]
    split
    · rename_i hnone
      rw [hnone] at h
      exact .unrouted h
    · rename_i hsome
      rcases hall : d.invokeAll p found (marked s p) with ⟨err | _, s'⟩
      · exact .failed h hsome hall
      · exact .handled h hsome hall

theorem Dispatches.of_dispatch {p : Projectable} {s s' : Site ι σ}
    {outcome : Except DispatchError Nat} (h : d.dispatch p s = (outcome, s')) :
    d.Dispatches p s outcome s' := by
  have hd := d.dispatches_dispatch p s
  rwa [h] at hd

/-- An error is the routes', with nothing changed, or it names the projection that failed. -/
theorem exists_of_dispatch_error {p : Projectable} {s s' : Site ι σ} {err : DispatchError}
    (h : d.dispatch p s = (.error err, s')) :
    ((s.router.matching p.becauseOf).1 = .error .poisoned ∧ err = .routing .poisoned ∧ s' = s) ∨
    ∃ found, (s.router.matching p.becauseOf).1 = .ok found ∧
      ∃ i ∈ found, ∃ source, err = d.failure i p source := by
  cases Dispatches.of_dispatch h with
  | refused hanswer => exact Or.inl ⟨hanswer, rfl, rfl⟩
  | failed hanswer _ hall => exact Or.inr ⟨_, hanswer, exists_of_invokeAll_error hall⟩

/-! ### The functions of a dispatcher as steps -/

/-- Induction on those who are still to get the projectable. -/
theorem handles_invokeAll (p : Projectable) (is : List ι) {s : Site ι σ}
    (h : s.confirmations.Tracks p.id) : d.Handles s (d.invokeAll p is s).2 := by
  induction is generalizing s with
  | nil => exact .refl
  | cons i rest ih =>
    have hstep : d.Handling s (d.invoke i p s).2 := .invoke s i p h
    -- whatever the projection does, the identity stays tracked for those behind it
    have htracked := (onward_invoke (d := d) s i h).tracked p.id h
    rw [invokeAll]
    split
    · rename_i e s' heq
      rw [heq] at hstep
      exact .single hstep
    · rename_i s' heq
      rw [heq] at hstep htracked
      exact (Relation.ReflTransGen.single hstep).trans (ih htracked)

theorem handles_asked (s : Site ι σ) (reasons : List String) : d.Handles s (asked s reasons) :=
  .single (.ask s reasons)

theorem handles_marked (s : Site ι σ) (p : Projectable) : d.Handles s (marked s p) :=
  (handles_asked s p.becauseOf).tail (.mark _ p)

theorem tracks_marked (s : Site ι σ) (p : Projectable) :
    (marked s p).confirmations.Tracks p.id := Confirmations.tracks_markPending ..

/-- In each of its four ways, a dispatch asks, marks and hands out, in this order. -/
theorem handles_dispatch (d : Dispatcher ι σ) (p : Projectable) (s : Site ι σ) :
    d.Handles s (d.dispatch p s).2 := by
  have hall (found : List ι) : d.Handles s (d.invokeAll p found (marked s p)).2 :=
    (handles_marked s p).trans (handles_invokeAll p found (tracks_marked s p))
  rcases hd : d.dispatch p s with ⟨outcome, s'⟩
  cases Dispatches.of_dispatch hd with
  | refused => exact .refl
  | unrouted => exact handles_asked s p.becauseOf
  | @failed found _ _ _ _ hfound | @handled found _ _ _ hfound =>
    have hhandles := hall found
    rwa [hfound] at hhandles

/-- What is handed out again is dispatched, and that is noted behind it. -/
theorem handles_redispatch (d : Dispatcher ι σ) (p : Projectable) (s : Site ι σ) :
    d.Handles s (d.redispatch p s).2 := by
  unfold redispatch
  split
  · exact .refl
  · exact (handles_dispatch d p s).tail (.noteAgain _ p _)

/-- A failure ends the chain earlier, but it is a chain all the same. -/
theorem handles_redispatchEach (ps : List Projectable) (done : Nat) (s : Site ι σ) :
    d.Handles s (d.redispatchEach ps done s).2 := by
  induction ps generalizing done s with
  | nil => exact .refl
  | cons p rest ih =>
    have hp := handles_redispatch d p s
    rw [redispatchEach]
    split <;> rename_i heq <;> rw [heq] at hp
    · exact hp
    · exact hp.trans (ih _ _)

theorem handles_redispatchOverdue (d : Dispatcher ι σ) (s : Site ι σ) :
    d.Handles s (d.redispatchOverdue s).2 := handles_redispatchEach ..

/-- A name that nobody has resets nobody. -/
theorem handles_resetNamed (d : Dispatcher ι σ) (name : String) (s : Site ι σ) :
    d.Handles s (d.resetNamed name s).2 := by
  unfold resetNamed
  split
  · exact .refl
  · exact .single (.reset s _ _ _)

end Dispatcher

end EventJournal
