/-
EventJournal/Proofs/Journal/Tombstone.lean

A tombstone is final, and nothing ever leaves the log.

A stream is closed by its status alone, which deletes, appends and truncations share.  All
of them look at the status before they touch the record, and so a record with a tombstone
is never written again (`get?_run_of_tombstoned`).  The journal answers each request to
such a stream with an error of its own and stays as it is (`Journal.Closed`); a reader of
the stream is shown its version and nothing else.

The log does not know the status.  A reader of the whole journal is given what stands in
its window of the log (`readFrom_eq_filter`), and so it is given the entries of a closed
stream like all others.

Main result: whatever is done to a reachable journal, its log stays where it is, and what
was closed stays closed and is still delivered (`keeps_run`).
-/
import EventJournal.Proofs.Journal.History
import EventJournal.Proofs.Journal.Visibility

namespace EventJournal

namespace Journal

variable {j j' : Journal} {id : StreamId}

/-! ### The record -/

/-- Only a stream that was written has a tombstone. -/
theorem get?_of_tombstoned (h : j.statusOf id = .tombstoned) :
    ∃ r, j.streams.get? id = some r ∧ r.status = .tombstoned := by
  cases hr : j.streams.get? id with
  | none =>
    rw [statusOf, recordOf, Table.getD, hr] at h
    cases h
  | some r =>
    rw [statusOf, recordOf_of_get? hr] at h
    exact ⟨r, rfl, h⟩

/-- No operation writes the record of a closed stream. -/
theorem get?_perform_of_tombstoned (op : Operation) (h : j.statusOf id = .tombstoned) :
    (op.perform j).2.streams.get? id = j.streams.get? id := by
  rcases op.perform_cases j with ⟨e, hop⟩ | ⟨a, r, rfl, -, href, -, hcommits⟩ |
    ⟨c, r, -, -, hr, hstatus, hop⟩
  · rw [hop]
  · -- to this stream the append would have been refused
    refine hcommits.others id ?_
    rintro rfl
    exact (refusal?_eq_none_iff.1 href).1 h
  · -- an update that goes through has met no tombstone
    have hne : id ≠ op.target := by
      rintro rfl
      rw [statusOf, recordOf_of_get? hr] at h
      exact hstatus h
    rw [hop, streams_setRecord, Table.get?_insert_of_ne _ _ hne]

theorem recordOf_of_get?_eq (h : j'.streams.get? id = j.streams.get? id) :
    j'.recordOf id = j.recordOf id := by
  rw [recordOf, recordOf, Table.getD, Table.getD, h]

/-- No history writes the record of a closed stream, by induction on the operations. -/
theorem get?_run_of_tombstoned (ops : List Operation) (h : j.statusOf id = .tombstoned) :
    (Operation.run ops j).streams.get? id = j.streams.get? id := by
  induction ops generalizing j with
  | nil => rfl
  | cons op rest ih =>
    have hstep := get?_perform_of_tombstoned op h
    have hstatus : (op.perform j).2.statusOf id = .tombstoned := by
      rw [statusOf, recordOf_of_get?_eq hstep]
      exact h
    exact (ih hstatus).trans hstep

/-! ### Requests -/

/-- What the journal answers about a closed stream of this version. -/
structure Closed (j : Journal) (id : StreamId) (version : Nat) : Prop where
  /-- Whatever version the writer expects. -/
  append : ∀ a : Append, a.stream = id → a.WellFormed →
    j.append a = (.error (.streamDeleted id), j)
  tombstone : j.tombstone id = (.error (.alreadyTombstoned id), j)
  softDelete : j.softDelete id = (.error (.alreadyDeleted id), j)
  truncateBefore : ∀ v, j.truncateBefore id v = (.error (.tombstoned id), j)
  history : j.history id =
    { stream := id
      streamVersion := version
      entries := []
      snapshot := none
      isTombstoned := true
      isSoftDeleted := false }

theorem append_of_refusal? {a : Append} {e : JournalError} (hwf : a.WellFormed)
    (h : j.refusal? a = some e) : j.append a = (.error e, j) := by
  unfold append
  rw [Append.flaw?_eq_none_iff.2 hwf, h]
  rfl

theorem update_of_error {r : StreamRecord} {e : JournalError}
    {change : StreamRecord → Except JournalError StreamRecord} (hid : id.name ≠ "")
    (hr : j.streams.get? id = some r) (h : change r = .error e) :
    j.update id change = (.error e, j) := by
  have hnamed : id.isEmpty = false := by simpa [StreamId.isEmpty] using hid
  unfold update
  rw [hnamed, hr]
  simp [h]

/-- A stream that was written has a name. -/
theorem Indexed.name_ne_empty (h : j.Indexed) {r : StreamRecord}
    (hr : j.streams.get? id = some r) : id.name ≠ "" := by
  -- a known stream has entries, and none was committed to a stream without a name
  obtain ⟨i, hi⟩ := List.exists_mem_of_ne_nil _ (h.known id r hr)
  rw [h.positions_eq hr] at hi
  obtain ⟨e, he, rfl⟩ := mem_placesIn.1 hi
  exact (h.wellTyped e (List.mem_of_getElem? he)).1

/-- A journal in order answers for each closed stream as it should. -/
theorem Indexed.closed (h : j.Indexed) (hstatus : j.statusOf id = .tombstoned) :
    j.Closed id (j.version id) := by
  obtain ⟨r, hr, ht⟩ := get?_of_tombstoned hstatus
  have hid := h.name_ne_empty hr
  refine ⟨?_, ?_, ?_, ?_, ?_⟩
  · rintro a rfl hwf
    exact append_of_refusal? hwf (if_pos hstatus)
  · exact update_of_error hid hr (if_pos ht)
  · exact update_of_error hid hr (if_neg (by simp [ht]))
  · exact fun v => update_of_error hid hr (if_pos ht)
  · rw [history_eq, hstatus, recordOf_of_get? hr]
    simp [visible, ht]

/-! ### Readers of the whole journal -/

/-- A reader is given the entries whose positions are in its window. -/
theorem Indexed.readFrom_eq_filter (h : j.Indexed) (position most : Nat) :
    j.readFrom position most = j.log.filter fun e =>
      position ≤ e.globalPosition ∧ e.globalPosition < position + most := by
  -- the log is what stands before the window, in it and behind it
  have hlog : j.log = j.log.take position ++ (j.readFrom position most
      ++ (j.log.drop position).drop most) := by
    rw [readFrom, List.take_append_drop, List.take_append_drop]
  have hbefore : ∀ e ∈ j.log.take position, e.globalPosition < position := by
    intro e he
    obtain ⟨i, hi, rfl⟩ := List.mem_take_iff_getElem.1 he
    rw [h.globalPosition_eq (List.getElem?_eq_getElem _)]
    omega
  have hwithin : ∀ e ∈ j.readFrom position most,
      position ≤ e.globalPosition ∧ e.globalPosition < position + most := by
    intro e he
    obtain ⟨i, hi, rfl⟩ := List.mem_take_iff_getElem.1 he
    rw [List.getElem_drop, h.globalPosition_eq (List.getElem?_eq_getElem _)]
    omega
  have hbehind : ∀ e ∈ (j.log.drop position).drop most, position + most ≤ e.globalPosition := by
    intro e he
    rw [List.drop_drop] at he
    obtain ⟨i, hi, rfl⟩ := List.mem_drop_iff_getElem.1 he
    rw [h.globalPosition_eq (List.getElem?_eq_getElem _)]
    omega
  conv_rhs => rw [hlog]
  rw [List.filter_append, List.filter_append, List.filter_eq_nil_iff.2, List.filter_eq_self.2,
    List.filter_eq_nil_iff.2, List.nil_append, List.append_nil]
  · intro e he
    have := hbehind e he
    simp only [decide_eq_true_eq]
    omega
  · exact fun e he => decide_eq_true (hwithin e he)
  · intro e he
    have := hbefore e he
    simp only [decide_eq_true_eq]
    omega

/-- Of one stream, a reader is given the entries whose positions are in its window. -/
theorem Indexed.entriesIn_readFrom (h : j.Indexed) (id : StreamId) (position most : Nat) :
    entriesIn (j.readFrom position most) id = (entriesIn j.log id).filter fun e =>
      position ≤ e.globalPosition ∧ e.globalPosition < position + most := by
  rw [h.readFrom_eq_filter, entriesIn, entriesIn, List.filter_filter, List.filter_filter]
  simp only [Bool.and_comm]

/-- The entries of a stream whose record was not written are those from before. -/
theorem entriesIn_of_get?_eq (h : j.Indexed) (h' : j'.Indexed) (hlog : j.log <+: j'.log)
    (hget : j'.streams.get? id = j.streams.get? id) :
    entriesIn j'.log id = entriesIn j.log id := by
  -- as many as before, since that is what the version counts
  have hlength : (entriesIn j.log id).length = (entriesIn j'.log id).length := by
    rw [← h.version_eq, ← h'.version_eq, version, version, recordOf_of_get?_eq hget]
  have hsub : entriesIn j.log id <+: entriesIn j'.log id := hlog.filter _
  exact (hsub.eq_of_length hlength).symm

/-! ### Histories -/

/-- Between the journals `j` and `j'` no entry was lost, and no closed stream was touched. -/
structure Keeps (j j' : Journal) : Prop where
  /-- No entry is changed, moved or removed. -/
  log : j.log <+: j'.log
  /-- The record of a closed stream stays as it is. -/
  record : ∀ id, j.statusOf id = .tombstoned →
    ∃ r, j.streams.get? id = some r ∧ j'.streams.get? id = some r ∧ r.status = .tombstoned
  /-- A closed stream stays closed, with the version that it had. -/
  closed : ∀ id, j.statusOf id = .tombstoned → j'.Closed id (j.version id)
  /-- A closed stream has as many entries as its version says, and readers of the whole journal
  are given each of them that is in their window. -/
  delivered : ∀ id, j.statusOf id = .tombstoned →
    (entriesIn j.log id).length = j.version id ∧
    ∀ (readers : Readers) (name : String) (most : Nat),
      entriesIn (readers.readNext j' name most).1 id = (entriesIn j.log id).filter fun e =>
        readers.position name ≤ e.globalPosition ∧
          e.globalPosition < readers.position name + most

/-- **A tombstone is final and the log only grows**, after any history and however it goes on. -/
theorem keeps_run (stamps : Nat → Stamp) (ops later : List Operation) :
    (Operation.run ops (.empty stamps)).Keeps
      (Operation.run later (Operation.run ops (.empty stamps))) := by
  have hj := (indexed_empty stamps).run ops
  -- nothing but the index is used of the first part
  generalize Operation.run ops (.empty stamps) = j at hj ⊢
  have hextends : j.Extends (Operation.run later j) := ⟨later, rfl⟩
  have hj' := hextends.indexed hj
  refine ⟨hextends.log_prefix, ?_, ?_, ?_⟩
  · intro id hstatus
    obtain ⟨r, hr, ht⟩ := get?_of_tombstoned hstatus
    exact ⟨r, hr, (get?_run_of_tombstoned later hstatus).trans hr, ht⟩
  · intro id hstatus
    have hrecord := recordOf_of_get?_eq (get?_run_of_tombstoned later hstatus)
    -- the version is the one that the record has kept
    have hversion : (Operation.run later j).version id = j.version id := by
      rw [version, version, hrecord]
    rw [← hversion]
    refine hj'.closed ?_
    rw [statusOf, hrecord]
    exact hstatus
  · intro id hstatus
    refine ⟨(hj.version_eq id).symm, fun readers name most => ?_⟩
    rw [← entriesIn_of_get?_eq hj hj' hextends.log_prefix (get?_run_of_tombstoned later hstatus)]
    exact hj'.entriesIn_readFrom id _ most

/-- An append opens a hidden stream, but not one that was hidden and then closed. -/
example :
    (Operation.run
      [.append ⟨⟨"s"⟩, .any, [⟨"a", 1, .null⟩], .none, none⟩, .softDelete ⟨"s"⟩, .tombstone ⟨"s"⟩,
        .append ⟨⟨"s"⟩, .any, [⟨"b", 1, .null⟩], .none, none⟩]
      (.empty fun _ => default)).statusOf ⟨"s"⟩ = .tombstoned := by
  decide

end Journal

end EventJournal
