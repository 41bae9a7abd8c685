/-
EventJournal/Proofs/Confirmations.lean

What marking and confirming keep, whatever the clock shows.  An identity that was handed
out or confirmed is tracked from then on (`Confirmations.Tracks`): it can be confirmed but
not forgotten.  Bookkeeping that starts empty stays `Confirmations.Sound`: each record
stands under the identity of its projectable, and nothing is both pending and confirmed.

What is pending is reported once it is overdue (`mem_overdue_of_get?`), so nothing that was
handed out gets lost before somebody confirms it.
-/
import EventJournal.Confirmations

namespace EventJournal

namespace Confirmations

/-! ### Tracked identities -/

/-- The identity was handed out or confirmed. -/
def Tracks (c : Confirmations) (id : ProjectableId) : Prop := c.IsPending id ∨ c.IsConfirmed id

/-- Records stand under the identity of their projectable, and none is of a confirmed one. -/
structure Sound (c : Confirmations) : Prop where
  keyed : ∀ id r, c.pending.get? id = some r → r.projectable.id = id
  apart : ∀ id, c.IsPending id → ¬ c.IsConfirmed id

theorem sound_empty : empty.Sound where
  keyed _ _ h := by cases h
  apart _ h := by cases h

theorem isPending_iff {c : Confirmations} {id : ProjectableId} :
    c.IsPending id ↔ ∃ r, c.pending.get? id = some r := by
  unfold IsPending
  rw [Table.mem_iff_get?_isSome, Option.isSome_iff_exists]

/-- What is not confirmed is pending once it is marked. -/
theorem isPending_markPending {c : Confirmations} {now : Int} {p : Projectable}
    {id : ProjectableId} (h : ¬ c.IsConfirmed p.id) :
    (c.markPending now p).IsPending id ↔ id = p.id ∨ c.IsPending id := by
  unfold markPending
  rw [if_neg h]
  exact Table.mem_insert

/-- Marking confirms nothing and takes no confirmation back. -/
theorem isConfirmed_markPending {c : Confirmations} {now : Int} {p : Projectable}
    {id : ProjectableId} : (c.markPending now p).IsConfirmed id ↔ c.IsConfirmed id := by
  unfold IsConfirmed
  rw [confirmed_markPending]

/-- What is marked is tracked, even if it is confirmed already. -/
theorem tracks_markPending (c : Confirmations) (now : Int) (p : Projectable) :
    (c.markPending now p).Tracks p.id := by
  by_cases h : c.IsConfirmed p.id
  · exact Or.inr (isConfirmed_markPending.2 h)
  · exact Or.inl ((isPending_markPending h).2 (Or.inl rfl))

/-- Marking one identity forgets no other. -/
theorem Tracks.markPending {c : Confirmations} {id : ProjectableId} (h : c.Tracks id) (now : Int)
    (p : Projectable) : (c.markPending now p).Tracks id := by
  rcases h with h | h
  · by_cases hp : c.IsConfirmed p.id
    · rw [markPending_of_isConfirmed now hp]
      exact Or.inl h
    · exact Or.inl ((isPending_markPending hp).2 (Or.inr h))
  · exact Or.inr (isConfirmed_markPending.2 h)

/-- Confirming forgets none either: the identity goes from pending to confirmed. -/
theorem Tracks.confirm {c : Confirmations} {id : ProjectableId} (h : c.Tracks id)
    (p : Projectable) : (c.confirm p).Tracks id := by
  by_cases hid : id = p.id
  · exact Or.inr (isConfirmed_confirm.2 (Or.inl hid))
  · rcases h with h | h
    · exact Or.inl (isPending_confirm.2 ⟨hid, h⟩)
    · exact Or.inr (isConfirmed_confirm.2 (Or.inr h))

/-- A record is renewed under its own identity, and only if that is not confirmed. -/
theorem Sound.markPending {c : Confirmations} (h : c.Sound) (now : Int) (p : Projectable) :
    (c.markPending now p).Sound := by
  by_cases hp : c.IsConfirmed p.id
  · rwa [markPending_of_isConfirmed now hp]
  · refine ⟨?_, ?_⟩
    · intro id r hr
      unfold Confirmations.markPending at hr
      rw [if_neg hp] at hr
      simp only [Table.get?_insert] at hr
      split at hr
      · rename_i hid
        cases hr
        -- an old record keeps its projectable, so it still has this identity
        split
        · exact hid.symm
        · rename_i r' hr'
          exact (h.keyed _ r' hr').trans hid.symm
      · exact h.keyed id r hr
    · intro id hid
      rw [isConfirmed_markPending]
      rcases (isPending_markPending hp).1 hid with rfl | hid
      · exact hp
      · exact h.apart id hid

/-- What is confirmed leaves the records. -/
theorem Sound.confirm {c : Confirmations} (h : c.Sound) (p : Projectable) :
    (c.confirm p).Sound where
  keyed id r hr := by
    simp only [Confirmations.confirm, Table.get?_erase] at hr
    split at hr
    · cases hr
    · exact h.keyed id r hr
  apart id hid := by
    obtain ⟨hne, hid⟩ := isPending_confirm.1 hid
    rw [isConfirmed_confirm]
    rintro (h' | h')
    · exact hne h'
    · exact h.apart id hid h'

/-! ### Reports -/

/-- What is pending is reported once it is overdue. -/
theorem mem_overdue_of_get? {c : Confirmations} {id : ProjectableId} {r : Outstanding}
    (h : c.pending.get? id = some r) {now : Int} {threshold : Duration}
    (hr : r.IsOverdue now threshold) : r.projectable ∈ c.overdue now threshold := by
  have hvalue : r ∈ c.pending.values := List.mem_map.2 ⟨(id, r), Table.get?_eq_some_iff.1 h, rfl⟩
  exact List.mem_map_of_mem (mem_overdueRecords.2 ⟨hvalue, hr⟩)

end Confirmations

end EventJournal
