/-
EventJournal/Proofs/Dispatch/Errands.lean

Errands for projections.

What is done for a projection is one of two things: a projectable is marked pending, or the
projection is handed it.  A list of errands is carried out up to the first that fails
(`Dispatcher.carryOut`); that the routes refuse to answer is an errand as well, and always fails.

Whatever else changes at a site is of no concern to a projection: the router remembers, notes are
made and the cursor moves (`Site.SameWork`).  Errands come to the same at sites that differ in
nothing else, and what they leave on record can be read off the list (`Site.Records`).
-/
import EventJournal.Proofs.Dispatch.Delivery
import EventJournal.Proofs.Dispatch.Identity

namespace EventJournal

variable {ι σ : Type}

/-! ### Errands -/

/-- One thing that a cycle does for an entry. -/
inductive Errand (ι : Type) where
  /-- The projectable is marked pending. -/
  | mark (p : Projectable)
  /-- A projection is handed the projectable. -/
  | hand (i : ι) (p : Projectable)
  /-- The routes are asked for the projectable, in vain. -/
  | refuse (p : Projectable) (e : RoutingError)

namespace Errand

/-- Who is handed what. -/
def handed? : Errand ι → Option (ι × Projectable)
  | hand i p => some (i, p)
  | _ => none

end Errand

/-- The sites differ at most in where the reader is, in what the router remembers and in
notes. -/
structure Site.SameWork (s s' : Site ι σ) : Prop where
  journal : s'.journal = s.journal
  confirmations : s'.confirmations = s.confirmations
  memory : s'.memory = s.memory
  now : s'.now = s.now
  invocations : s'.trace.filterMap Occurrence.invocation?
    = s.trace.filterMap Occurrence.invocation?

/-- The next attempt at reading succeeds. -/
def Site.CanRead (s : Site ι σ) : Prop := ∀ err rest, s.outages ≠ some err :: rest

namespace Site.SameWork

variable {s s' s'' : Site ι σ}

theorem refl (s : Site ι σ) : s.SameWork s := ⟨rfl, rfl, rfl, rfl, rfl⟩

/-- Sites with the same work in between. -/
theorem trans (h : s.SameWork s') (h' : s'.SameWork s'') : s.SameWork s'' where
  journal := h'.journal.trans h.journal
  confirmations := h'.confirmations.trans h.confirmations
  memory := h'.memory.trans h.memory
  now := h'.now.trans h.now
  invocations := h'.invocations.trans h.invocations

/-- Noting anything but an invocation. -/
theorem note (s : Site ι σ) {o : Occurrence ι} (ho : o.invocation? = none) :
    s.SameWork (s.note o) where
  journal := rfl
  confirmations := rfl
  memory := rfl
  now := rfl
  invocations := by
    rw [Site.note, List.filterMap_append, List.filterMap_cons_none ho]
    exact List.append_nil _

end Site.SameWork

/-! ### Carrying out errands -/

namespace Dispatcher

variable [DecidableEq ι]

/-- Does one thing. -/
def perform (d : Dispatcher ι σ) (s : Site ι σ) : Errand ι → Except DispatchError Unit × Site ι σ
  | .mark p => (.ok (), { s with confirmations := s.confirmations.markPending s.now p })
  | .hand i p => ((d.invoke i p s).1.mapError (d.failure i p), (d.invoke i p s).2)
  | .refuse _ e => (.error (.routing e), s)

/-- Does one thing after the other, up to the first that fails. -/
def carryOut (d : Dispatcher ι σ) :
    List (Errand ι) → Site ι σ → Except DispatchError Unit × Site ι σ
  | [], s => (.ok (), s)
  | errand :: rest, s => match d.perform s errand with
    | (.error e, s') => (.error e, s')
    | (.ok (), s') => carryOut d rest s'

variable {d : Dispatcher ι σ} {s s' t : Site ι σ}

/-- Errands that are all done hand on to the ones behind them. -/
theorem carryOut_append_of_ok {first rest : List (Errand ι)}
    (h : d.carryOut first s = (.ok (), s')) :
    d.carryOut (first ++ rest) s = d.carryOut rest s' := by
  induction first generalizing s with
  | nil =>
    cases h
    rfl
  | cons errand more ih =>
    rw [carryOut] at h
    rw [List.cons_append, carryOut]
    rcases herrand : d.perform s errand with ⟨e | _, s₁⟩ <;> rw [herrand] at h
    · cases h
    · exact ih h

/-- What stands behind an errand that failed is not looked at. -/
theorem carryOut_append_of_error {first rest : List (Errand ι)} {e : DispatchError}
    (h : d.carryOut first s = (.error e, s')) :
    d.carryOut (first ++ rest) s = (.error e, s') := by
  induction first generalizing s with
  | nil => cases h
  | cons errand more ih =>
    rw [carryOut] at h
    rw [List.cons_append, carryOut]
    rcases herrand : d.perform s errand with ⟨e' | _, s₁⟩ <;> rw [herrand] at h
    · exact h
    · exact ih h

/-- What is done to the end is done in both of its parts. -/
theorem of_carryOut_append_ok {first rest : List (Errand ι)}
    (h : d.carryOut (first ++ rest) s = (.ok (), s')) :
    ∃ s₁, d.carryOut first s = (.ok (), s₁) ∧ d.carryOut rest s₁ = (.ok (), s') := by
  rcases hfirst : d.carryOut first s with ⟨e | _, s₁⟩
  · rw [carryOut_append_of_error hfirst] at h
    cases h
  · rw [carryOut_append_of_ok hfirst] at h
    exact ⟨s₁, rfl, h⟩

/-- The errands `first` are done, and the one behind them fails. -/
structure BreaksOff (d : Dispatcher ι σ) (s : Site ι σ) (errands first : List (Errand ι))
    (errand : Errand ι) (e : DispatchError) (s' : Site ι σ) : Prop where
  errands : ∃ rest, errands = first ++ errand :: rest
  fails : ∃ s₁, d.carryOut first s = (.ok (), s₁) ∧ d.perform s₁ errand = (.error e, s')

/-- Errands that break off end with the error of the one that failed. -/
theorem BreaksOff.carryOut {errands first : List (Errand ι)} {errand : Errand ι}
    {e : DispatchError} (h : d.BreaksOff s errands first errand e s') :
    d.carryOut errands s = (.error e, s') := by
  obtain ⟨rest, rfl⟩ := h.errands
  obtain ⟨s₁, hfirst, herrand⟩ := h.fails
  rw [carryOut_append_of_ok hfirst, Dispatcher.carryOut, herrand]

/-- An errand that is done may be put in front. -/
theorem BreaksOff.cons {errand errand' : Errand ι} {errands first : List (Errand ι)}
    {e : DispatchError} (h : d.BreaksOff s errands first errand e s')
    (hdone : d.perform t errand' = (.ok (), s)) :
    d.BreaksOff t (errand' :: errands) (errand' :: first) errand e s' := by
  obtain ⟨rest, rfl⟩ := h.errands
  obtain ⟨s₁, hfirst, herrand⟩ := h.fails
  refine ⟨⟨rest, rfl⟩, s₁, ?_, herrand⟩
  rw [Dispatcher.carryOut, hdone]
  exact hfirst

/-- Errands are all done, or done up to one that fails. -/
theorem carryOut_cases (d : Dispatcher ι σ) (errands : List (Errand ι)) (s : Site ι σ) :
    (∃ s', d.carryOut errands s = (.ok (), s')) ∨
      ∃ first errand e s', d.BreaksOff s errands first errand e s' := by
  induction errands generalizing s with
  | nil => exact Or.inl ⟨s, rfl⟩
  | cons errand rest ih =>
    rcases herrand : d.perform s errand with ⟨e | _, s₁⟩
    · exact Or.inr ⟨[], errand, e, s₁, ⟨rest, rfl⟩, s, rfl, herrand⟩
    · rcases ih s₁ with ⟨s', hs'⟩ | ⟨first, errand', e, s', hbreaks⟩
      · refine Or.inl ⟨s', ?_⟩
        rw [carryOut, herrand]
        exact hs'
      · exact Or.inr ⟨errand :: first, errand', e, s', hbreaks.cons herrand⟩

/-- An errand fails if a projection fails or the routes cannot be asked. -/
theorem of_perform_error {errand : Errand ι} {e : DispatchError}
    (h : d.perform s errand = (.error e, s')) :
    (∃ i p source, errand = .hand i p ∧ e = d.failure i p source) ∨
      ∃ p source, errand = .refuse p source ∧ e = .routing source := by
  cases errand with
  | mark p => cases h
  | hand i p =>
    rcases hi : d.invoke i p s with ⟨source | _, s₁⟩ <;> rw [perform, hi] at h <;> cases h
    exact Or.inl ⟨i, p, source, rfl, rfl⟩
  | refuse p source =>
    cases h
    exact Or.inr ⟨p, source, rfl, rfl⟩

end Dispatcher

/-! ### What errands depend on -/

namespace Site.SameWork

variable [DecidableEq ι] {d : Dispatcher ι σ} {s t : Site ι σ}

/-- A projection sees the journal, the bookkeeping and its own memory; nothing else of a site. -/
theorem invoke (h : s.SameWork t) (i : ι) (p : Projectable) :
    (d.invoke i p t).1 = (d.invoke i p s).1 ∧ (d.invoke i p s).2.SameWork (d.invoke i p t).2 := by
  -- the reaction is a function of just these three
  have hreaction : d.reaction i p t = d.reaction i p s := by
    rw [Dispatcher.reaction, Dispatcher.reaction, Dispatcher.stateOf, Dispatcher.stateOf,
      h.journal, h.confirmations, h.memory]
  unfold Dispatcher.invoke
  rw [hreaction]
  refine ⟨rfl, rfl, rfl, ?_, h.now, ?_⟩
  · exact congrArg (fun memory => memory.insert i (d.reaction i p s).state) h.memory
  · dsimp only
    rw [List.filterMap_append, List.filterMap_append, h.invocations]

/-- So any errand comes out the same, and the work stays the same behind it. -/
theorem perform (h : s.SameWork t) (errand : Errand ι) :
    (d.perform t errand).1 = (d.perform s errand).1 ∧
      (d.perform s errand).2.SameWork (d.perform t errand).2 := by
  cases errand with
  | mark p =>
    refine ⟨rfl, h.journal, ?_, h.memory, h.now, h.invocations⟩
    show t.confirmations.markPending t.now p = s.confirmations.markPending s.now p
    rw [h.confirmations, h.now]
  | hand i p =>
    obtain ⟨houtcome, hsite⟩ := h.invoke (d := d) i p
    exact ⟨congrArg (Except.mapError (d.failure i p)) houtcome, hsite⟩
  | refuse p source => exact ⟨rfl, h⟩

/-- Errands come out the same on sites with the same work, by induction on the errands. -/
theorem carryOut (h : s.SameWork t) (errands : List (Errand ι)) :
    (d.carryOut errands t).1 = (d.carryOut errands s).1 ∧
      (d.carryOut errands s).2.SameWork (d.carryOut errands t).2 := by
  induction errands generalizing s t with
  | nil => exact ⟨rfl, h⟩
  | cons errand rest ih =>
    obtain ⟨houtcome, hsite⟩ := h.perform (d := d) errand
    rw [Dispatcher.carryOut, Dispatcher.carryOut]
    rcases hs : d.perform s errand with ⟨_ | _, s'⟩ <;>
      rcases ht : d.perform t errand with ⟨_ | _, t'⟩ <;>
      rw [hs, ht] at houtcome hsite <;> cases houtcome
    · exact ⟨rfl, hsite⟩
    · exact ih hsite

end Site.SameWork

/-! ### What is on record -/

/-- Of all that went on, the errands alone made invocations and pending marks. -/
structure Site.Records (s : Site ι σ) (errands : List (Errand ι)) (s' : Site ι σ) : Prop where
  invocations : s'.trace.filterMap Occurrence.invocation?
    = s.trace.filterMap Occurrence.invocation? ++ errands.filterMap Errand.handed?
  pending : ∀ id, s'.confirmations.IsPending id →
    s.confirmations.IsPending id ∨ ∃ p, .mark p ∈ errands ∧ p.id = id

namespace Site.Records

variable {s s' s'' : Site ι σ} {errands errands' : List (Errand ι)}

theorem refl (s : Site ι σ) : s.Records [] s := ⟨(List.append_nil _).symm, fun _ => Or.inl⟩

/-- The errands of two stretches, one behind the other. -/
theorem trans (h : s.Records errands s') (h' : s'.Records errands' s'') :
    s.Records (errands ++ errands') s'' where
  invocations := by
    rw [h'.invocations, h.invocations, List.filterMap_append, List.append_assoc]
  pending id hid := by
    rcases h'.pending id hid with hid | ⟨p, hp, rfl⟩
    · exact (h.pending id hid).imp_right fun ⟨p, hp, hid⟩ => ⟨p, List.mem_append_left _ hp, hid⟩
    · exact Or.inr ⟨p, List.mem_append_right _ hp, rfl⟩

/-- Work that is none of an errand's leaves no record. -/
theorem sameWork (h : s.Records errands s') (hs : s'.SameWork s'') : s.Records errands s'' where
  invocations := hs.invocations.trans h.invocations
  pending id hid := by
    rw [hs.confirmations] at hid
    exact h.pending id hid

variable [DecidableEq ι] {d : Dispatcher ι σ}

/-- An errand is on record whether or not it fails. -/
theorem perform (d : Dispatcher ι σ) (s : Site ι σ) (errand : Errand ι) :
    s.Records [errand] (d.perform s errand).2 := by
  cases errand with
  | mark p =>
    refine ⟨(List.append_nil _).symm, fun id hid => ?_⟩
    -- what is confirmed already is not made pending again
    by_cases hp : s.confirmations.IsConfirmed p.id
    · refine Or.inl ?_
      rwa [Dispatcher.perform, Confirmations.markPending_of_isConfirmed s.now hp] at hid
    · rcases (Confirmations.isPending_markPending hp).1 hid with rfl | hid
      · exact Or.inr ⟨p, List.mem_singleton_self _, rfl⟩
      · exact Or.inl hid
  | hand i p =>
    refine ⟨List.filterMap_append .., fun id hid => Or.inl ?_⟩
    obtain ⟨record, hrecord⟩ := Option.isSome_iff_exists.1 (Table.mem_iff_get?_isSome.1 hid)
    exact Table.mem_iff_get?_isSome.2
      (Option.isSome_of_eq_some (Reaction.get?_of_run _ _ hrecord))
  | refuse p e => exact ⟨(List.append_nil _).symm, fun _ => Or.inl⟩

/-- Errands that are all done are on record, by induction on the errands. -/
theorem carryOut (h : d.carryOut errands s = (.ok (), s')) : s.Records errands s' := by
  induction errands generalizing s with
  | nil =>
    cases h
    exact refl _
  | cons errand rest ih =>
    have hfirst := perform d s errand
    rw [Dispatcher.carryOut] at h
    rcases herrand : d.perform s errand with ⟨e | _, s₁⟩ <;> rw [herrand] at h hfirst
    · cases h
    · exact hfirst.trans (ih h)

/-- If they break off, the one that failed is the last on record. -/
theorem of_breaksOff {first : List (Errand ι)} {errand : Errand ι} {e : DispatchError}
    (h : d.BreaksOff s errands first errand e s') : s.Records (first ++ [errand]) s' := by
  obtain ⟨s₁, hfirst, herrand⟩ := h.fails
  have hlast := perform d s₁ errand
  rw [herrand] at hlast
  exact (carryOut hfirst).trans hlast

end Site.Records

end EventJournal
