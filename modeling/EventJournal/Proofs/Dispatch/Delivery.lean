/-
EventJournal/Proofs/Dispatch/Delivery.lean

At-least-once delivery.

All projections share one record for each projectable, so what a run owes to its
projections it owes to them together: once one of them has confirmed a projectable, it is
settled for those as well that handled it and said nothing (`not_deliversEach_sharedDay`).  As
long as none has, it is owed to all (`Dispatcher.Owes`): it is pending, it is reported when it is
overdue, and it can be handed out again, to all that match or up to the first that fails
(`Dispatcher.HandsOut`).

Main result: a projectable that was handed out in a run is owed until some projection
confirms it (`delivers_run`).
-/
import EventJournal.Projection.Scripted
import EventJournal.Proofs.Dispatch.Watch

namespace EventJournal

variable {ι σ : Type}

/-! ### Handing out -/

/-- Who was handed what, if this is an invocation. -/
def Occurrence.invocation? : Occurrence ι → Option (ι × Projectable)
  | .invoked i p _ _ => some (i, p)
  | _ => none

/-- Who was handed what and what came of it, if this is an invocation. -/
def Occurrence.result? : Occurrence ι → Option (ι × Projectable × Except ProjectionError Unit)
  | .invoked i p _ outcome => some (i, p, outcome)
  | _ => none

namespace Dispatcher

/-- In the stretch `T` of a trace a projectable was handed to projections in order, up to the
first that failed. -/
inductive HandsOut (d : Dispatcher ι σ) (p : Projectable) :
    List ι → List (Occurrence ι) → Except DispatchError Unit → Prop
  /-- All of them handled it. -/
  | all {is : List ι} {T : List (Occurrence ι)} :
      T.filterMap Occurrence.result? = is.map (fun i => (i, p, .ok ())) →
      HandsOut d p is T (.ok ())
  /-- The projection `i` failed.  Those before it handled the projectable, and those behind it
  were not handed it. -/
  | broken {before after : List ι} {i : ι} {source : ProjectionError} {T : List (Occurrence ι)} :
      T.filterMap Occurrence.result?
        = before.map (fun i => (i, p, .ok ())) ++ [(i, p, .error source)] →
      HandsOut d p (before ++ i :: after) T (.error (d.failure i p source))

variable {d : Dispatcher ι σ} {p : Projectable} {is : List ι} {T : List (Occurrence ι)}
  {answer : Except DispatchError Unit}

/-- One more projection handled the projectable before. -/
theorem HandsOut.cons (h : d.HandsOut p is T answer) (i : ι) (confirmed : List ProjectableId) :
    d.HandsOut p (i :: is) (.invoked i p confirmed (.ok ()) :: T) answer := by
  have hfirst : (.invoked i p confirmed (.ok ()) :: T).filterMap Occurrence.result?
      = (i, p, .ok ()) :: T.filterMap Occurrence.result? := List.filterMap_cons_some rfl
  cases h with
  | all hall =>
    apply HandsOut.all
    rw [hfirst, hall, List.map_cons]
  | @broken before after i' source _ hbroken =>
    show d.HandsOut p ((i :: before) ++ i' :: after) _ _
    apply HandsOut.broken
    rw [hfirst, hbroken, List.map_cons, List.cons_append]

/-- Something that is no invocation was noted besides. -/
theorem HandsOut.concat (h : d.HandsOut p is T answer) {o : Occurrence ι}
    (ho : o.result? = none) : d.HandsOut p is (T ++ [o]) answer := by
  have hsame : (T ++ [o]).filterMap Occurrence.result? = T.filterMap Occurrence.result? := by
    rw [List.filterMap_append, List.filterMap_cons_none ho]
    exact List.append_nil _
  cases h with
  | all hall => exact .all (hsame.trans hall)
  | broken hbroken => exact .broken (hsame.trans hbroken)

variable [DecidableEq ι]

/-- Projections are handed the projectable in order, by induction on them. -/
theorem handsOut_invokeAll (d : Dispatcher ι σ) (p : Projectable) (is : List ι) (s : Site ι σ) :
    ∃ T, (d.invokeAll p is s).2.trace = s.trace ++ T ∧
      d.HandsOut p is T (d.invokeAll p is s).1 := by
  induction is generalizing s with
  | nil => exact ⟨[], (List.append_nil _).symm, .all rfl⟩
  | cons i rest ih =>
    have htrace : (d.invoke i p s).2.trace
        = s.trace ++ [.invoked i p (d.reaction i p s).confirmed (d.invoke i p s).1] := rfl
    rw [invokeAll]
    rcases hi : d.invoke i p s with ⟨source | _, s'⟩ <;> rw [hi] at htrace
    · -- the projections behind it are not asked
      have hbroken : d.HandsOut p ([] ++ i :: rest)
          [.invoked i p (d.reaction i p s).confirmed (.error source)]
          (.error (d.failure i p source)) := .broken rfl
      exact ⟨_, htrace, hbroken⟩
    · obtain ⟨T, hT, hrest⟩ := ih s'
      -- this one has handled it, and the rest are handed it in turn
      refine ⟨.invoked i p (d.reaction i p s).confirmed (.ok ()) :: T, ?_, hrest.cons i _⟩
      rw [hT, htrace, List.append_assoc]
      rfl

/-- If the routes can be asked, the projectable is handed to those that match. -/
theorem handsOut_dispatch (d : Dispatcher ι σ) {p : Projectable} {s : Site ι σ} {found : List ι}
    (h : (s.router.matching p.becauseOf).1 = .ok found) :
    ∃ T answer, (d.dispatch p s).2.trace = s.trace ++ T ∧ d.HandsOut p found T answer ∧
      (d.dispatch p s).1 = answer.map fun _ => found.length := by
  rw [dispatch_of_found h]
  split
  · rename_i hnone
    rw [hnone]
    exact ⟨[], .ok (), (List.append_nil _).symm, .all rfl, rfl⟩
  · -- remembering the routes and marking it pending leave the trace alone
    obtain ⟨T, hT, hall⟩ := handsOut_invokeAll d p found (marked s p)
    exact ⟨T, _, hT, hall, rfl⟩

/-- What is not confirmed is dispatched once more, and that is noted. -/
theorem redispatch_of_unconfirmed (d : Dispatcher ι σ) {p : Projectable} {s : Site ι σ}
    (h : ¬ s.confirmations.IsConfirmed p.id) :
    d.redispatch p s
      = ((d.dispatch p s).1, (d.dispatch p s).2.note (.redispatched p (d.dispatch p s).1)) := by
  unfold redispatch
  rw [if_neg h]

/-! ### What is owed -/

/-- The dispatcher owes what is identified by `id` to its projections. -/
structure Owes (d : Dispatcher ι σ) (s : Site ι σ) (id : ProjectableId) : Prop where
  pending : s.confirmations.IsPending id
  unconfirmed : ¬ s.confirmations.IsConfirmed id
  /-- It is reported once the timeout has passed. -/
  reported : ∃ r, s.confirmations.pending.get? id = some r ∧ r.projectable.id = id ∧
    ∀ now : Int, r.IsOverdue now d.config.confirmationTimeout →
      r.projectable ∈ d.overdue { s with now }
  /-- If it is dispatched again it is handed to the projections that match, in their order and
  up to the first that fails. -/
  deliverable : ∀ p, p.id = id → ∀ found, (s.router.matching p.becauseOf).1 = .ok found →
    ∃ T answer, (d.redispatch p s).2.trace = s.trace ++ T ∧ d.HandsOut p found T answer ∧
      (d.redispatch p s).1 = answer.map fun _ => found.length
  /-- If the routes cannot be asked then, it stays on record as it is. -/
  refused : ∀ p, p.id = id → ∀ err, (s.router.matching p.becauseOf).1 = .error err →
    (d.redispatch p s).1 = .error (.routing err) ∧
      (d.redispatch p s).2.confirmations = s.confirmations

/-- What is tracked and not confirmed is owed. -/
theorem owes_of_tracks (d : Dispatcher ι σ) {s : Site ι σ} {id : ProjectableId}
    (hs : s.confirmations.Sound) (htracks : s.confirmations.Tracks id)
    (hno : ¬ s.confirmations.IsConfirmed id) : d.Owes s id := by
  -- what was ever marked is pending until it is confirmed
  have hpending : s.confirmations.IsPending id := htracks.resolve_right hno
  obtain ⟨r, hr⟩ := Confirmations.isPending_iff.1 hpending
  refine ⟨hpending, hno, ⟨r, hr, hs.keyed id r hr, ?_⟩, ?_, ?_⟩
  · intro now hnow
    exact Confirmations.mem_overdue_of_get? hr hnow
  · rintro p rfl found hfound
    obtain ⟨T, answer, hT, hhanded, hanswer⟩ := d.handsOut_dispatch hfound
    rw [redispatch_of_unconfirmed d hno]
    refine ⟨T ++ [.redispatched p (d.dispatch p s).1], answer, ?_, hhanded.concat rfl, hanswer⟩
    show (d.dispatch p s).2.trace ++ _ = _
    rw [hT, List.append_assoc]
  · rintro p rfl err herr
    -- the routes are asked before anything is marked
    obtain rfl := (Router.of_matching_error herr).1
    rw [redispatch_of_unconfirmed d hno, dispatch_of_refused herr]
    exact ⟨rfl, rfl⟩

end Dispatcher

/-! ### Runs -/

namespace Watch

variable [DecidableEq ι]

/-- What was handed out in a run is owed as long as no projection has confirmed it.  It is
settled once one has, if nobody failed at it. -/
structure Delivers (w : Watch ι σ) (ms : List (Move ι σ)) : Prop where
  owed : ∀ q p confirmed outcome, .invoked q p confirmed outcome ∈ w.done ms →
    ¬ ConfirmedIn (w.done ms) p.id → (w.run ms).dispatcher.Owes (w.run ms).site p.id
  settled : ∀ id, ConfirmedIn (w.done ms) id →
    (∀ q p confirmed outcome, .invoked q p confirmed outcome ∈ w.done ms → p.id = id →
      outcome = .ok ()) →
    (w.run ms).site.confirmations.IsConfirmed id ∧ ¬ (w.run ms).site.confirmations.IsPending id

/-- **Delivery is at least once** to the projections taken together, in every run. -/
theorem delivers_run (w : Watch ι σ) (ms : List (Move ι σ))
    (hw : w.site.confirmations = .empty) : w.Delivers ms := by
  have honward := onward_run w ms
  have hsound : (w.run ms).site.confirmations.Sound := by
    apply honward.sound
    rw [hw]
    exact Confirmations.sound_empty
  -- nothing was confirmed before, so what is confirmed now was confirmed in this run
  have hconfirmed (id : ProjectableId) :
      (w.run ms).site.confirmations.IsConfirmed id ↔ ConfirmedIn (w.done ms) id := by
    rw [honward.confirmed, hw]
    exact or_iff_right List.not_mem_nil
  constructor
  · intro q p confirmed outcome hmem hno
    apply Dispatcher.owes_of_tracks _ hsound (honward.handed q p confirmed outcome hmem)
    rwa [hconfirmed]
  · intro id hid _
    rw [← hconfirmed] at hid
    exact ⟨hid, fun hpending => hsound.apart id hpending hid⟩

/-- Two projections, of which the first confirms and the second says nothing. -/
def uneven : Watch Bool Script.State :=
  .start (fun _ => default)
    (fun isFirst => Script.projection
      (if isFirst then { name := "first" } else { name := "second", default := .silent }))
    fun _ _ => .stop

/-- The only entry that is ever committed there. -/
def loneEntry : Entry := ⟨default, ⟨"s"⟩, "a", 1, .null, 1, 0, .none⟩

/-- The second projection alone is handed the entry, and then once more. -/
def quietDay : List (Move Bool Script.State) :=
  [.register ⟨false, ["*"], "second", by simp⟩,
    .operate (.append ⟨⟨"s"⟩, .any, [⟨"a", 1, .null⟩], .none, none⟩), .tick .cycle 0,
    .redispatch (.ofEntry loneEntry)]

/-- The entry is still owed. -/
theorem delivers_quietDay :
    uneven.site.confirmations = .empty ∧ uneven.Delivers quietDay ∧
      (uneven.run quietDay).dispatcher.Owes (uneven.run quietDay).site ⟨"a", "s", 1⟩ := by
  have hdelivers : uneven.Delivers quietDay := delivers_run uneven quietDay rfl
  have hdone : uneven.done quietDay =
      [.invoked false (.ofEntry loneEntry) [] (.ok ()), .dispatched (.ofEntry loneEntry) (.ok 1),
        .invoked false (.ofEntry loneEntry) [] (.ok ()),
        .redispatched (.ofEntry loneEntry) (.ok 1)] := rfl
  refine ⟨rfl, hdelivers, ?_⟩
  apply hdelivers.owed false (.ofEntry loneEntry) [] (.ok ())
  · simp [hdone]
  · simp [hdone, ConfirmedIn, ConfirmedBy]

/-! ### One projection by itself -/

/-- What was handed to a projection stays pending as long as this projection has not confirmed
it. -/
def DeliversEach (w : Watch ι σ) (ms : List (Move ι σ)) : Prop :=
  ∀ q p confirmed outcome, .invoked q p confirmed outcome ∈ w.done ms →
    ¬ ConfirmedBy (w.done ms) q p.id →
    (w.run ms).site.confirmations.IsPending p.id ∧
      ¬ (w.run ms).site.confirmations.IsConfirmed p.id

/-- Projections confirm only what they were handed. -/
def ConfirmsHanded (w : Watch ι σ) (ms : List (Move ι σ)) : Prop :=
  ∀ i id, ConfirmedBy (w.done ms) i id →
    ∃ p confirmed outcome, .invoked i p confirmed outcome ∈ w.done ms ∧ p.id = id

/-- Both projections are handed the entry. -/
def sharedDay : List (Move Bool Script.State) :=
  [.register ⟨true, ["*"], "first", by simp⟩, .register ⟨false, ["*"], "second", by simp⟩,
    .operate (.append ⟨⟨"s"⟩, .any, [⟨"a", 1, .null⟩], .none, none⟩), .tick .cycle 0]

/-- The first projection settles the entry for the second one too. -/
theorem not_deliversEach_sharedDay :
    uneven.site.confirmations = .empty ∧ uneven.ConfirmsHanded sharedDay ∧
      ¬ uneven.DeliversEach sharedDay := by
  have hdone : uneven.done sharedDay =
      [.invoked true (.ofEntry loneEntry) [⟨"a", "s", 1⟩] (.ok ()),
        .invoked false (.ofEntry loneEntry) [] (.ok ()),
        .dispatched (.ofEntry loneEntry) (.ok 2)] := rfl
  refine ⟨rfl, ?_, ?_⟩
  · rintro i id ⟨p, confirmed, outcome, hmem, hid⟩
    refine ⟨p, confirmed, outcome, hmem, ?_⟩
    rw [hdone] at hmem
    simp only [List.mem_cons, Occurrence.invoked.injEq, reduceCtorEq, List.not_mem_nil,
      or_false] at hmem
    rcases hmem with ⟨-, rfl, rfl, -⟩ | ⟨-, rfl, rfl, -⟩
    · exact (List.mem_singleton.1 hid).symm
    · cases hid
  · intro heach
    have hmem : .invoked false (.ofEntry loneEntry) [] (.ok ()) ∈ uneven.done sharedDay := by
      simp [hdone]
    have hnot : ¬ ConfirmedBy (uneven.done sharedDay) false (Projectable.ofEntry loneEntry).id := by
      simp [hdone, ConfirmedBy]
    -- it says nothing, but the record it shares was removed before
    have hunconfirmed := (heach false _ _ _ hmem hnot).2
    exact hunconfirmed (by decide)

end Watch

end EventJournal
