/-
EventJournal/Proofs/Journal/History.lean

What a history leaves behind in the log.  `Journal.Extends` relates a journal to those
that a history leads to from it; whoever holds a journal for a while and lets others
work on it knows no more about what they did.

An operation adds entries at the end of the log or leaves it alone, so the old log is a
prefix of the new one (`Extends.log_prefix`): an entry that was read once stays where it
was read.
-/
import EventJournal.Proofs.Journal.Index

namespace EventJournal

namespace Journal

/-- Some history of operations leads from `j` to `j'`. -/
def Extends (j j' : Journal) : Prop := ∃ ops : List Operation, j' = Operation.run ops j

theorem Extends.refl (j : Journal) : j.Extends j := ⟨[], rfl⟩

theorem Extends.trans {j j' j'' : Journal} (h : j.Extends j') (h' : j'.Extends j'') :
    j.Extends j'' := by
  obtain ⟨ops, rfl⟩ := h
  obtain ⟨ops', rfl⟩ := h'
  exact ⟨ops ++ ops', (Operation.run_append ops ops' j).symm⟩

theorem extends_perform (j : Journal) (op : Operation) : j.Extends (op.perform j).2 := ⟨[op], rfl⟩

theorem extends_append (j : Journal) (a : Append) : j.Extends (j.append a).2 :=
  j.extends_perform (.append a)

theorem Extends.indexed {j j' : Journal} (h : j.Extends j') (hj : j.Indexed) : j'.Indexed := by
  obtain ⟨ops, rfl⟩ := h
  exact hj.run ops

/-! ### The log only grows -/

theorem log_prefix_update (j : Journal) (id : StreamId)
    (change : StreamRecord → Except JournalError StreamRecord) :
    j.log <+: (j.update id change).2.log := by
  have hlog : (j.update id change).2.log = j.log := by
    rcases update_cases j id change with ⟨e, hu⟩ | ⟨r, r', -, -, hu⟩ <;>
      exact congrArg (fun answer => answer.2.log) hu
  exact ⟨[], by rw [hlog, List.append_nil]⟩

theorem log_prefix_perform (j : Journal) (op : Operation) : j.log <+: (op.perform j).2.log := by
  cases op with
  | append a =>
    show j.log <+: (j.append a).2.log
    rcases append_cases j a with ⟨e, -, happ⟩ | ⟨-, -, happ⟩
    · exact ⟨[], by rw [happ, List.append_nil]⟩
    · rw [happ]
      exact List.prefix_append ..
  | tombstone id => exact log_prefix_update ..
  | softDelete id => exact log_prefix_update ..
  | truncateBefore id v => exact log_prefix_update ..

theorem Extends.log_prefix {j j' : Journal} (h : j.Extends j') : j.log <+: j'.log := by
  obtain ⟨ops, rfl⟩ := h
  induction ops generalizing j with
  | nil => exact List.prefix_refl _
  | cons op rest ih => exact (log_prefix_perform j op).trans ih

end Journal

end EventJournal
