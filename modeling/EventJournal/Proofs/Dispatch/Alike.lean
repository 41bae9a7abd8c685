/-
EventJournal/Proofs/Dispatch/Alike.lean

What a dispatcher does depends neither on the clock nor on where the cursor stands, and on
the stamps of entries only as far as its projections look at them.

Two sites are alike behind a mask if they look the same apart from these (`Site.Alike`);
their histories are compared with the times left out.  Main results: dispatching entries
that look the same at sites that are alike has the same outcome and leaves them alike
(`Dispatcher.Alike.dispatch`), and resetting leaves them alike too (`resetFailed`).
-/
import EventJournal.Dispatch.Worker
import EventJournal.Proofs.Dispatch.Handling
import EventJournal.Proofs.Projection.Stamps

namespace EventJournal

variable {ι σ : Type} {mask : Mask}

/-- What was done behind the mask, with the time left out. -/
def Mask.occurrence (mask : Mask) : Occurrence ι → Occurrence ι
  | .invoked i p confirmed outcome => .invoked i (mask.projectable p) confirmed outcome
  | .dispatched p outcome => .dispatched (mask.projectable p) outcome
  | .redispatched p outcome => .redispatched (mask.projectable p) outcome
  | .wasReset i outcome => .wasReset i outcome
  | .decided round _ e attempt directive => .decided round 0 e attempt directive

/-! ### Sites -/

section Sites

variable [DecidableEq ι] [Setoid σ]

/-- The sites look the same behind the mask, apart from the clock, the cursor and the outages to
come. -/
structure Site.Alike (mask : Mask) (s s' : Site ι σ) : Prop where
  journal : s.journal.Alike mask s'.journal
  router : s.router = s'.router
  confirmations : s.confirmations.Alike mask s'.confirmations
  memory : ∀ i initial, s.memory.getD i initial ≈ s'.memory.getD i initial
  trace : s.trace.map mask.occurrence = s'.trace.map mask.occurrence

namespace Site.Alike

variable {s s' s'' : Site ι σ}

theorem refl (s : Site ι σ) : s.Alike mask s :=
  ⟨.refl _, rfl, .refl _, fun _ _ => Setoid.refl _, rfl⟩

theorem symm (h : s.Alike mask s') : s'.Alike mask s :=
  ⟨h.journal.symm, h.router.symm, h.confirmations.symm,
    fun i initial => Setoid.symm (h.memory i initial), h.trace.symm⟩

theorem trans (h : s.Alike mask s') (h' : s'.Alike mask s'') : s.Alike mask s'' :=
  ⟨h.journal.trans h'.journal, h.router.trans h'.router,
    h.confirmations.trans h'.confirmations,
    fun i initial => Setoid.trans (h.memory i initial) (h'.memory i initial),
    h.trace.trans h'.trace⟩

theorem note (h : s.Alike mask s') {o o' : Occurrence ι}
    (ho : mask.occurrence o = mask.occurrence o') : (s.note o).Alike mask (s'.note o') where
  journal := h.journal
  router := h.router
  confirmations := h.confirmations
  memory := h.memory
  trace := by
    show (s.trace ++ [o]).map _ = (s'.trace ++ [o']).map _
    rw [List.map_append, List.map_append, h.trace, List.map_singleton, List.map_singleton, ho]

/-- Where the cursors stand makes no difference. -/
theorem seek (h : s.Alike mask s') (c c' : Nat) : (s.seek c).Alike mask (s'.seek c') := { h with }

end Site.Alike

/-- Tables of states stay equivalent if equivalent states are put into them. -/
theorem getD_insert_equiv {t t' : Table ι σ} (h : ∀ i initial, t.getD i initial ≈ t'.getD i initial)
    (k : ι) {state state' : σ} (hstate : state ≈ state') (i : ι) (initial : σ) :
    (t.insert k state).getD i initial ≈ (t'.insert k state').getD i initial := by
  unfold Table.getD
  rw [Table.get?_insert, Table.get?_insert]
  split
  · exact hstate
  · exact h i initial

/-! ### Dispatching -/

/-- The dispatchers work for the same projections, and these respect the mask. -/
structure Dispatcher.Alike (mask : Mask) (d d' : Dispatcher ι σ) : Prop where
  projections : d.projections = d'.projections
  respects : ∀ i, (d.projections i).Respects mask

namespace Dispatcher.Alike

variable {d d' : Dispatcher ι σ} {p p' : Projectable} {s s' : Site ι σ}

omit [DecidableEq ι] in
theorem symm (hd : d.Alike mask d') : d'.Alike mask d where
  projections := hd.projections.symm
  respects := hd.projections ▸ hd.respects

variable (hd : d.Alike mask d') (hp : mask.projectable p = mask.projectable p')
  (hs : s.Alike mask s')

include hd hs

theorem stateOf (i : ι) : d.stateOf s i ≈ d'.stateOf s' i := by
  unfold Dispatcher.stateOf
  rw [← hd.projections]
  exact hs.memory i _

include hp in
/-- What looks the same is handed out alike. -/
theorem invoke (i : ι) : (d.invoke i p s).1 = (d'.invoke i p' s').1 ∧
    (d.invoke i p s).2.Alike mask (d'.invoke i p' s').2 := by
  -- the same projection is given what looks the same, in states that it cannot tell apart
  have hproject : ((d.projections i).project p (d.stateOf s i)).Alike mask
      ((d'.projections i).project p' (d'.stateOf s' i)) := by
    rw [← hd.projections]
    exact (hd.respects i).project hp (hd.stateOf hs i)
  have hreaction : (d.reaction i p s).Alike mask (d'.reaction i p' s') :=
    hproject.run hs.journal hs.confirmations
  refine ⟨hreaction.outcome, hreaction.journal, hs.router, hreaction.confirmations, ?_, ?_⟩
  · exact getD_insert_equiv hs.memory i hreaction.state
  · show (s.trace ++ [_]).map _ = (s'.trace ++ [_]).map _
    rw [List.map_append, List.map_append, hs.trace]
    simp only [List.map_singleton, Mask.occurrence, hp, hreaction.confirmed,
      hreaction.outcome]

include hp in
/-- Projections are handed it alike one after the other, by induction on them. -/
theorem invokeAll (is : List ι) : (d.invokeAll p is s).1 = (d'.invokeAll p' is s').1 ∧
    (d.invokeAll p is s).2.Alike mask (d'.invokeAll p' is s').2 := by
  induction is generalizing s s' with
  | nil => exact ⟨rfl, hs⟩
  | cons i rest ih =>
    obtain ⟨houtcome, hsite⟩ := hd.invoke hp hs i
    rw [Dispatcher.invokeAll, Dispatcher.invokeAll]
    rcases hi : d.invoke i p s with ⟨e | u, t⟩ <;>
      rcases hi' : d'.invoke i p' s' with ⟨e' | u', t'⟩ <;> rw [hi, hi'] at houtcome hsite
    · cases houtcome
      -- both stop here, and the error names what does not depend on stamps
      refine ⟨?_, hsite⟩
      rw [hd.projections, Mask.id_eq hp, Mask.globalPosition_eq hp]
    · cases houtcome
    · cases houtcome
    · exact ih hsite

include hp in
/-- What looks the same is dispatched alike at sites that are alike. -/
theorem dispatch : (d.dispatch p s).1 = (d'.dispatch p' s').1 ∧
    (d.dispatch p s).2.Alike mask (d'.dispatch p' s').2 := by
  have hreasons := Mask.becauseOf_eq hp
  have hanswer : s'.router.matching p'.becauseOf = s.router.matching p.becauseOf := by
    rw [hs.router, hreasons]
  cases hfound : (s.router.matching p.becauseOf).1 with
  | error e =>
    -- the routes are the same ones, so they refuse both or neither
    obtain rfl := (Router.of_matching_error hfound).1
    rw [Dispatcher.dispatch_of_refused hfound,
      Dispatcher.dispatch_of_refused ((congrArg Prod.fst hanswer).trans hfound)]
    exact ⟨rfl, hs⟩
  | ok found =>
    rw [Dispatcher.dispatch_of_found hfound,
      Dispatcher.dispatch_of_found ((congrArg Prod.fst hanswer).trans hfound)]
    have hasked : (Dispatcher.asked s p.becauseOf).Alike mask
        (Dispatcher.asked s' p'.becauseOf) :=
      { hs with router := (congrArg Prod.snd hanswer).symm }
    -- both mark the entry as pending, at the time that their own clocks show
    have hmarked : (Dispatcher.marked s p).Alike mask (Dispatcher.marked s' p') :=
      { hasked with confirmations := hs.confirmations.markPending s.now s'.now hp }
    obtain ⟨houtcome, hsite⟩ := hd.invokeAll hp hmarked found
    split
    · exact ⟨rfl, hasked⟩
    · exact ⟨congrArg (Except.map fun _ => found.length) houtcome, hsite⟩

theorem resetNamed (name : String) :
    (d.resetNamed name s).1 = (d'.resetNamed name s').1 ∧
      (d.resetNamed name s).2.Alike mask (d'.resetNamed name s').2 := by
  unfold Dispatcher.resetNamed
  rw [← hd.projections, hs.router]
  split
  · exact ⟨rfl, hs⟩
  · rename_i i _
    -- routes that are the same name the same projection
    obtain ⟨houtcome, hreset⟩ := (hd.respects i).reset (hd.stateOf hs i)
    dsimp only
    rw [houtcome]
    refine ⟨rfl, Site.Alike.note ?_ rfl⟩
    exact { hs with router := rfl, memory := getD_insert_equiv hs.memory i hreset }

theorem resetFailed (e : DispatchError) :
    (Worker.resetFailed d e s).Alike mask (Worker.resetFailed d' e s') := by
  unfold Worker.resetFailed
  split
  · exact hs
  · exact (hd.resetNamed hs _).2

end Dispatcher.Alike

end Sites

end EventJournal
