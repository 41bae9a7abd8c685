/-
EventJournal/Proofs/Journal/Transcript.lean

What was asked of a journal and what it answered.

A `Deed` is an operation together with its outcome; the deeds of a history are all that
somebody knows who never looks into the journal.  A deed that was refused has done nothing.
A successful one has made one `Change`, to its own stream, and only if that stream had no
tombstone.

Main results: `perform_cases`, by which an operation is refused, commits, or revises the
record of a known stream, and `follows_perform`, by which the record and the entries of
each stream after an operation are those from before and the change that its deed reports.
-/
import EventJournal.Proofs.Journal.Index

namespace EventJournal

/-! ### Changes -/

/-- What a successful operation has done to its stream. -/
inductive Change where
  | committed (entries : List Entry) (snapshot : Option Snapshot)
  | truncated (version : Nat)
  | softDeleted
  | tombstoned
deriving DecidableEq, Repr

namespace Change

/-- The entries that were added to the stream. -/
def entries : Change → List Entry
  | committed es _ => es
  | _ => []

/-- The record of the stream after the change, in a journal of length `start`. -/
def revise (start : Nat) (r : StreamRecord) : Change → StreamRecord
  | committed es s =>
    { status := .active
      truncateBefore := r.truncateBefore
      positions := r.positions ++ List.range' start es.length
      snapshot := s.or r.snapshot }
  | truncated v => { r with truncateBefore := max r.truncateBefore v }
  | softDeleted => { r with status := .softDeleted }
  | tombstoned => { r with status := .tombstoned }

/-- Only committed entries count for the version. -/
theorem version_revise (c : Change) (start : Nat) (r : StreamRecord) :
    (c.revise start r).version = r.version + c.entries.length := by
  cases c <;> simp [revise, entries, StreamRecord.version]

end Change

/-! ### Deeds -/

/-- An operation and what it answered. -/
structure Deed where
  operation : Operation
  outcome : Operation.Outcome

namespace Deed

/-- What the deed has changed, if it succeeded. -/
def change? : Deed → Option Change
  | ⟨.append a, .ok (some r)⟩ => some (.committed r.entries a.snapshot)
  | ⟨.truncateBefore _ v, .ok _⟩ => some (.truncated v)
  | ⟨.softDelete _, .ok _⟩ => some .softDeleted
  | ⟨.tombstone _, .ok _⟩ => some .tombstoned
  | _ => none

/-- What the deed has changed about a stream. -/
def changeTo? (id : StreamId) (d : Deed) : Option Change :=
  if d.operation.target = id then d.change? else none

theorem change?_error (op : Operation) (e : JournalError) : change? ⟨op, .error e⟩ = none := by
  cases op <;> rfl

theorem changeTo?_of_ne {id : StreamId} {d : Deed} (h : d.operation.target ≠ id) :
    d.changeTo? id = none := if_neg h

end Deed

namespace Operation

/-- Carrying out an operation, as a deed. -/
def deed (op : Operation) (j : Journal) : Deed := ⟨op, (op.perform j).1⟩

/-- The deeds of operations carried out one after the other. -/
def deeds (ops : List Operation) (j : Journal) : List Deed :=
  List.zipWith Deed.mk ops (outcomes ops j)

@[simp] theorem deeds_nil (j : Journal) : deeds [] j = [] := rfl

@[simp] theorem deeds_cons (op : Operation) (ops : List Operation) (j : Journal) :
    deeds (op :: ops) j = op.deed j :: deeds ops (op.perform j).2 := rfl

/-! ### What an operation can do -/

/-- An operation that updates the record of its stream is refused or makes its change. -/
theorem revise_of_update {op : Operation} {j : Journal} (c : Change) (hc : c.entries = [])
    (hdeed : Deed.change? ⟨op, .ok none⟩ = some c)
    {change : StreamRecord → Except JournalError StreamRecord}
    (hop : op.perform j = ((j.update op.target change).1.map fun _ => none,
      (j.update op.target change).2))
    (hchange : ∀ r r', change r = .ok r' → r.status ≠ .tombstoned ∧ r' = c.revise j.length r) :
    (∃ e, op.perform j = (.error e, j)) ∨
    ∃ c r, (op.deed j).change? = some c ∧ c.entries = [] ∧ j.streams.get? op.target = some r ∧
      r.status ≠ .tombstoned ∧
      op.perform j = (.ok none, j.setRecord op.target (c.revise j.length r)) := by
  rcases Journal.update_cases j op.target change with ⟨e, hu⟩ | ⟨r, r', hr, hr', hu⟩ <;>
    rw [hu] at hop
  · exact Or.inl ⟨e, hop⟩
  · obtain ⟨hstatus, rfl⟩ := hchange r r' hr'
    refine Or.inr ⟨c, r, ?_, hc, hr, hstatus, hop⟩
    rw [deed, hop]
    exact hdeed

/-- An operation is refused and changes nothing, or it commits, or it revises the record of a
known stream without a tombstone. -/
theorem perform_cases (op : Operation) (j : Journal) :
    (∃ e, op.perform j = (.error e, j)) ∨
    (∃ a r, op = .append a ∧ a.WellFormed ∧ j.refusal? a = none ∧
      (op.perform j).1 = .ok (some r) ∧ j.Commits a r (op.perform j).2) ∨
    ∃ c r, (op.deed j).change? = some c ∧ c.entries = [] ∧ j.streams.get? op.target = some r ∧
      r.status ≠ .tombstoned ∧
      op.perform j = (.ok none, j.setRecord op.target (c.revise j.length r)) := by
  cases op with
  | append a =>
    rcases Journal.append_cases j a with ⟨e, -, happ⟩ | ⟨hwf, href, happ⟩ <;>
      simp only [perform, happ]
    · exact Or.inl ⟨e, rfl⟩
    · have hcommits := Journal.commits_commit (Journal.refusal?_eq_none_iff.1 href).1
      exact Or.inr (Or.inl ⟨a, (j.commit a).1, rfl, hwf, href, rfl, hcommits⟩)
  | tombstone id =>
    refine (revise_of_update .tombstoned rfl rfl rfl fun r r' hr => ?_).imp_right Or.inr
    split at hr
    · cases hr
    · cases hr
      exact ⟨‹_›, rfl⟩
  | softDelete id =>
    refine (revise_of_update .softDeleted rfl rfl rfl fun r r' hr => ?_).imp_right Or.inr
    split at hr
    · rename_i hactive
      cases hr
      -- only an active stream is hidden
      exact ⟨by simp [hactive], rfl⟩
    · cases hr
  | truncateBefore id v =>
    refine (revise_of_update (.truncated v) rfl rfl rfl fun r r' hr => ?_).imp_right Or.inr
    split at hr
    · cases hr
    · cases hr
      exact ⟨‹_›, rfl⟩

end Operation

/-! ### One stream -/

namespace Journal

/-- Between the journals `j` and `j'` a stream has seen this change, or none. -/
inductive Follows (j j' : Journal) (id : StreamId) : Option Change → Prop
  | same : j'.recordOf id = j.recordOf id → entriesIn j'.log id = entriesIn j.log id →
      Follows j j' id none
  | change {c : Change} : j.statusOf id ≠ .tombstoned →
      j'.recordOf id = c.revise j.length (j.recordOf id) →
      entriesIn j'.log id = entriesIn j.log id ++ c.entries → Follows j j' id (some c)

/-- Of all streams, a commit is seen by its own. -/
theorem Commits.follows {j j' : Journal} {a : Append} {r : AppendResult} (h : j.Commits a r j')
    (hstatus : j.statusOf a.stream ≠ .tombstoned) (id : StreamId) :
    j.Follows j' id (if a.stream = id then some (.committed r.entries a.snapshot) else none) := by
  have hlen : r.entries.length = a.entries.length := by rw [← h.toNew, List.length_map]
  split
  · rename_i hid
    subst hid
    refine .change hstatus ?_ ?_
    · rw [recordOf_of_get? h.record, Change.revise, hlen]
    · rw [h.log, entriesIn_append, entriesIn_of_forall h.stream]
      rfl
  · rename_i hid
    have hne : ∀ e ∈ r.entries, e.stream ≠ id := fun e he => (h.stream e he).trans_ne hid
    refine .same ?_ ?_
    · rw [recordOf, Table.getD, h.others id (Ne.symm hid)]
      rfl
    · rw [h.log, entriesIn_append, entriesIn_of_forall_ne hne, List.append_nil]

/-- Each stream sees the change that the deed reports, and nothing else. -/
theorem follows_perform (op : Operation) (j : Journal) (id : StreamId) :
    j.Follows (op.perform j).2 id ((op.deed j).changeTo? id) := by
  rcases op.perform_cases j with ⟨e, hop⟩ | ⟨a, r, rfl, -, href, hans, hcommits⟩ |
    ⟨c, r, hchange, hentries, hr, hstatus, hop⟩
  · have hnone : (op.deed j).changeTo? id = none := by
      unfold Deed.changeTo? Operation.deed
      rw [hop, Deed.change?_error, ite_self]
    rw [hnone, hop]
    exact .same rfl rfl
  · -- an append may reopen its stream, and leaves all others alone
    have hdeed : Operation.deed (.append a) j = ⟨.append a, .ok (some r)⟩ := by
      rw [Operation.deed, hans]
    rw [hdeed]
    exact hcommits.follows (refusal?_eq_none_iff.1 href).1 id
  · by_cases hid : op.target = id
    · subst hid
      have hrec : j.recordOf op.target = r := recordOf_of_get? hr
      have hto : (op.deed j).changeTo? op.target = some c := (if_pos rfl).trans hchange
      rw [hto, hop]
      refine .change ?_ ?_ ?_
      · rwa [statusOf, hrec]
      · rw [recordOf_setRecord, if_pos rfl, hrec]
      · rw [hentries, List.append_nil]
        rfl
    · rw [Deed.changeTo?_of_ne (d := op.deed j) hid, hop]
      refine .same ?_ rfl
      rw [recordOf_setRecord, if_neg (Ne.symm hid)]

end Journal

end EventJournal
