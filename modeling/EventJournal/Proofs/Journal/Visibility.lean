/-
EventJournal/Proofs/Journal/Visibility.lean

What a reader of a stream is shown follows from what succeeded.

The journal keeps a record of each stream and changes it in place; a reader is shown what
the record says at that moment.  Here the same is said without any record, of the list of
changes that successful operations have made to the stream (`changesTo`): which entries were
committed, the highest horizon, the last snapshot supplied, and the status.  The status is
that of the last delete unless an append came later, and a tombstone is final.

Main result: both ways of reading a stream answer as the changes say, after every history
(`reads_changes`), and the horizon never goes back.
-/
import EventJournal.Proofs.Journal.Transcript

namespace EventJournal

/-! ### What changes add up to -/

namespace Change

/-- The horizon that was asked for. -/
def horizon? : Change → Option Nat
  | truncated v => some v
  | _ => none

/-- The snapshot that was supplied. -/
def snapshot? : Change → Option Snapshot
  | committed _ s => s
  | _ => none

def isCommit : Change → Bool
  | committed _ _ => true
  | _ => false

/-- The committed entries, in order. -/
def entriesOf (cs : List Change) : List Entry := cs.flatMap entries

/-- The highest horizon that was asked for. -/
def horizonOf (cs : List Change) : Nat := (cs.filterMap horizon?).foldl max 0

/-- The last snapshot that was supplied. -/
def snapshotOf (cs : List Change) : Option Snapshot := (cs.filterMap snapshot?).getLast?

/-- The changes after the last commit, the latest first. -/
def sinceCommit (cs : List Change) : List Change := cs.reverse.takeWhile fun c => !c.isCommit

/-- The status that a stream has after some changes. -/
def statusOf (cs : List Change) : StreamStatus :=
  if tombstoned ∈ cs then .tombstoned
  else if softDeleted ∈ sinceCommit cs then .softDeleted
  else .active

theorem entriesOf_concat (cs : List Change) (c : Change) :
    entriesOf (cs ++ [c]) = entriesOf cs ++ c.entries := by
  simp [entriesOf]

theorem horizonOf_concat (cs : List Change) (c : Change) :
    horizonOf (cs ++ [c]) = max (horizonOf cs) (c.horizon?.getD 0) := by
  rw [horizonOf, List.filterMap_append, List.foldl_append]
  rcases hc : c.horizon? with - | v <;> simp [hc, horizonOf]

theorem snapshotOf_concat (cs : List Change) (c : Change) :
    snapshotOf (cs ++ [c]) = c.snapshot?.or (snapshotOf cs) := by
  rw [snapshotOf, List.filterMap_append, List.getLast?_append]
  rcases hc : c.snapshot? with - | s <;> simp [hc, snapshotOf]

/-- A commit begins anew, and any other change comes on top. -/
theorem sinceCommit_concat (cs : List Change) (c : Change) :
    sinceCommit (cs ++ [c]) = if c.isCommit then [] else c :: sinceCommit cs := by
  rw [sinceCommit, List.reverse_concat, List.takeWhile_cons]
  cases c.isCommit <;> rfl

/-- Nothing undoes a tombstone. -/
theorem statusOf_eq_tombstoned_iff {cs : List Change} :
    statusOf cs = .tombstoned ↔ tombstoned ∈ cs := by
  unfold statusOf
  split
  · simp [*]
  · split <;> simp [*]

/-- Unless a stream is closed, its status after a change is that which the record gets. -/
theorem statusOf_concat {cs : List Change} (h : statusOf cs ≠ .tombstoned) (c : Change)
    (start : Nat) {r : StreamRecord} (hr : r.status = statusOf cs) :
    statusOf (cs ++ [c]) = (c.revise start r).status := by
  have hopen : tombstoned ∉ cs := fun hmem => h (statusOf_eq_tombstoned_iff.2 hmem)
  cases c with
  | tombstoned => simp [statusOf, revise]
  -- a commit reopens what was hidden, since no delete came after it
  | committed es s =>
    have hnone : sinceCommit (cs ++ [committed es s]) = [] := sinceCommit_concat ..
    simp [statusOf, hopen, hnone, revise]
  | softDeleted =>
    have hlast : sinceCommit (cs ++ [softDeleted]) = softDeleted :: sinceCommit cs :=
      sinceCommit_concat ..
    simp [statusOf, hopen, hlast, revise]
  | truncated v =>
    -- a horizon neither opens nor hides the stream
    have hlast : sinceCommit (cs ++ [truncated v]) = truncated v :: sinceCommit cs :=
      sinceCommit_concat ..
    simp only [revise, hr]
    simp [statusOf, hopen, hlast]

end Change

/-- The changes that a stream has seen. -/
def changesTo (id : StreamId) (ds : List Deed) : List Change := ds.filterMap (Deed.changeTo? id)

theorem changesTo_cons (id : StreamId) (d : Deed) (ds : List Deed) :
    changesTo id (d :: ds) = (d.changeTo? id).toList ++ changesTo id ds := by
  rw [changesTo, List.filterMap_cons]
  cases d.changeTo? id <;> rfl

/-- What a reader of the stream is shown after some changes. -/
def StreamHistory.ofChanges (id : StreamId) (cs : List Change) : StreamHistory where
  stream := id
  streamVersion := (Change.entriesOf cs).length
  entries :=
    if Change.statusOf cs = .active then
      (Change.entriesOf cs).filter fun e => Change.horizonOf cs ≤ e.streamVersion
    else []
  snapshot := if Change.statusOf cs = .active then Change.snapshotOf cs else none
  isTombstoned := Change.statusOf cs = .tombstoned
  isSoftDeleted := Change.statusOf cs = .softDeleted

/-- The bookkeeping of the stream after some changes. -/
def StreamSummary.ofChanges (id : StreamId) (cs : List Change) : StreamSummary where
  stream := id
  isKnown := 0 < (Change.entriesOf cs).length
  currentVersion := (Change.entriesOf cs).length
  status := Change.statusOf cs
  truncateBefore := Change.horizonOf cs
  visibleEntryCount := (StreamHistory.ofChanges id cs).entries.length

namespace Journal

/-! ### The record and the changes -/

/-- The record and the entries of a stream are those that the changes add up to. -/
structure Tells (j : Journal) (id : StreamId) (cs : List Change) : Prop where
  entries : entriesIn j.log id = Change.entriesOf cs
  status : (j.recordOf id).status = Change.statusOf cs
  horizon : (j.recordOf id).truncateBefore = Change.horizonOf cs
  snapshot : (j.recordOf id).snapshot = Change.snapshotOf cs

theorem tells_empty (stamps : Nat → Stamp) (id : StreamId) : (empty stamps).Tells id [] :=
  ⟨rfl, rfl, rfl, rfl⟩

/-- The record follows the change, if there was one. -/
theorem Tells.follows {j j' : Journal} {id : StreamId} {cs : List Change} {c? : Option Change}
    (h : j.Tells id cs) (hc : j.Follows j' id c?) : j'.Tells id (cs ++ c?.toList) := by
  cases hc with
  | same hrec hlog =>
    rw [Option.toList_none, List.append_nil]
    exact ⟨hlog ▸ h.entries, hrec ▸ h.status, hrec ▸ h.horizon, hrec ▸ h.snapshot⟩
  | @change c hstatus hrec hlog =>
    rw [statusOf, h.status] at hstatus
    refine ⟨?_, ?_, ?_, ?_⟩ <;> rw [Option.toList_some]
    · rw [hlog, h.entries, Change.entriesOf_concat]
    · rw [hrec, Change.statusOf_concat hstatus c j.length h.status]
    · -- only a truncation names a horizon, and the higher one counts
      rw [hrec, Change.horizonOf_concat, ← h.horizon]
      cases c <;> simp [Change.revise, Change.horizon?]
    · rw [hrec, Change.snapshotOf_concat, ← h.snapshot]
      cases c <;> simp [Change.revise, Change.snapshot?]

/-- A history adds its changes, by induction on the operations. -/
theorem Tells.run {j : Journal} {id : StreamId} {cs : List Change} (h : j.Tells id cs)
    (ops : List Operation) :
    (Operation.run ops j).Tells id (cs ++ changesTo id (Operation.deeds ops j)) := by
  induction ops generalizing j cs with
  | nil => simpa [changesTo] using h
  | cons op rest ih =>
    have hrest := ih (h.follows (follows_perform op j id))
    rwa [List.append_assoc, ← changesTo_cons] at hrest

/-! ### Readers -/

/-- A reader of a stream that was never written is shown the record without entries. -/
theorem history_eq (j : Journal) (id : StreamId) :
    j.history id =
      { stream := id
        streamVersion := j.version id
        entries := j.visible (j.recordOf id)
        snapshot := if j.statusOf id = .active then (j.recordOf id).snapshot else none
        isTombstoned := j.statusOf id = .tombstoned
        isSoftDeleted := j.statusOf id = .softDeleted } := by
  unfold history version statusOf recordOf Table.getD
  cases j.streams.get? id <;> rfl

theorem summaryOf_eq (j : Journal) (id : StreamId) :
    j.summaryOf id =
      { stream := id
        isKnown := (j.streams.get? id).isSome
        currentVersion := j.version id
        status := j.statusOf id
        truncateBefore := (j.recordOf id).truncateBefore
        visibleEntryCount := (j.visible (j.recordOf id)).length } := by
  unfold summaryOf version statusOf recordOf Table.getD
  cases j.streams.get? id <;> rfl

namespace Indexed

variable {j : Journal}

/-- The positions of a stream lead to its entries. -/
theorem entriesOf_eq (h : j.Indexed) (id : StreamId) :
    j.entriesOf (j.recordOf id) = entriesIn j.log id := by
  -- the place of each entry leads back to it
  have hplaces : (placesIn j.log 0 id).map (fun p => j.log[p]?)
      = (entriesIn j.log id).map some := by
    apply List.ext_getElem
    · rw [List.length_map, List.length_map, length_placesIn]
    · intro k hk hk'
      rw [List.getElem_map, List.getElem_map,
        getElem?_placesIn (List.getElem?_eq_getElem (by simpa using hk))]
      exact List.getElem?_eq_getElem (by simpa using hk')
  calc j.entriesOf (j.recordOf id)
      = ((placesIn j.log 0 id).map fun p => j.log[p]?).filterMap fun e => e := by
        rw [entriesOf, h.positions, List.filterMap_map]
        rfl
    _ = (entriesIn j.log id).filterMap some := by
        rw [hplaces, List.filterMap_map]
        rfl
    _ = entriesIn j.log id := List.filterMap_some

/-- A stream is known exactly if it has an entry. -/
theorem isSome_get?_iff (h : j.Indexed) (id : StreamId) :
    (j.streams.get? id).isSome ↔ 0 < j.version id := by
  cases hr : j.streams.get? id with
  | none =>
    -- an unknown stream has the record of a new one
    have hrec : j.recordOf id = {} := by
      rw [recordOf, Table.getD, hr]
      rfl
    simp [version, hrec, StreamRecord.version]
  | some r =>
    have hpos := h.known id r hr
    rw [version, recordOf_of_get? hr, StreamRecord.version]
    simpa using List.length_pos_iff.2 hpos

/-- A stream shows its entries from the horizon on while it is active, and none otherwise. -/
theorem visible_eq (h : j.Indexed) {id : StreamId} {cs : List Change} (hcs : j.Tells id cs) :
    j.visible (j.recordOf id) = (StreamHistory.ofChanges id cs).entries := by
  rw [visible, h.entriesOf_eq, hcs.entries, hcs.status, hcs.horizon, StreamHistory.ofChanges]
  by_cases hactive : Change.statusOf cs = .active
  · simp [hactive]
  · simp [hactive]

end Indexed

/-! ### Histories -/

/-- No change moves the horizon back. -/
theorem Follows.truncateBefore_le {j j' : Journal} {id : StreamId} {c? : Option Change}
    (h : j.Follows j' id c?) :
    (j.recordOf id).truncateBefore ≤ (j'.recordOf id).truncateBefore := by
  cases h with
  | same hrec _ => exact Nat.le_of_eq (by rw [hrec])
  | @change c _ hrec _ =>
    rw [hrec]
    cases c with
    | truncated v => exact Nat.le_max_left ..
    | _ => exact Nat.le_refl _

/-- A history moves the horizon of a stream up or leaves it, by induction on the operations. -/
theorem truncateBefore_le_run (j : Journal) (ops : List Operation) (id : StreamId) :
    (j.recordOf id).truncateBefore ≤ ((Operation.run ops j).recordOf id).truncateBefore := by
  induction ops generalizing j with
  | nil => exact Nat.le_refl _
  | cons op rest ih => exact Nat.le_trans (follows_perform op j id).truncateBefore_le (ih _)

/-- **What readers of a stream are shown follows from the changes** that the successful
operations of a history have made to it, and its horizon never goes back. -/
theorem reads_changes (stamps : Nat → Stamp) (ops : List Operation) {id : StreamId}
    (hid : id.name ≠ "") :
    (Operation.run ops (.empty stamps)).history id
        = .ofChanges id (changesTo id (Operation.deeds ops (.empty stamps))) ∧
      (Operation.run ops (.empty stamps)).summary id
        = .ok (.ofChanges id (changesTo id (Operation.deeds ops (.empty stamps)))) ∧
      ∀ before after, ops = before ++ after →
        ((Operation.run before (.empty stamps)).summaryOf id).truncateBefore
          ≤ ((Operation.run ops (.empty stamps)).summaryOf id).truncateBefore := by
  have hindexed := (indexed_empty stamps).run ops
  have htells := (tells_empty stamps id).run ops
  rw [List.nil_append] at htells
  have hvisible := hindexed.visible_eq htells
  have hversion : (Operation.run ops (.empty stamps)).version id
      = (Change.entriesOf (changesTo id (Operation.deeds ops (.empty stamps)))).length := by
    rw [hindexed.version_eq, htells.entries]
  refine ⟨?_, ?_, ?_⟩
  · rw [history_eq, hvisible, hversion, statusOf, htells.status, htells.snapshot]
    rfl
  · have hnamed : id.isEmpty = false := by simpa [StreamId.isEmpty] using hid
    have hknown := hindexed.isSome_get?_iff id
    rw [hversion] at hknown
    rw [summary, hnamed, summaryOf_eq, hvisible, hversion, statusOf, htells.status,
      htells.horizon, StreamSummary.ofChanges,
      Bool.eq_iff_iff.2 (hknown.trans decide_eq_true_iff.symm)]
    rfl
  · rintro before after rfl
    rw [Operation.run_append, summaryOf_eq, summaryOf_eq]
    exact truncateBefore_le_run _ after id

/-- A stream that is hidden beyond its end, deleted, reopened and written on. -/
def returning : List Operation :=
  [.append ⟨⟨"s"⟩, .noStream, [⟨"a", 1, .null⟩, ⟨"b", 1, .null⟩], .none, some ⟨2, .null⟩⟩,
    .truncateBefore ⟨"s"⟩ 4, .softDelete ⟨"s"⟩,
    .append ⟨⟨"s"⟩, .exact 9, [⟨"c", 1, .null⟩], .none, none⟩,
    .append ⟨⟨"s"⟩, .exact 3, [⟨"c", 1, .null⟩, ⟨"d", 1, .null⟩], .none, none⟩,
    .truncateBefore ⟨"s"⟩ 2, .append ⟨⟨"s"⟩, .any, [⟨"e", 1, .null⟩], .none, none⟩]

/-- The entries from the horizon on are shown, with the first snapshot. -/
theorem reads_changes_returning :
    (⟨"s"⟩ : StreamId).name ≠ "" ∧
      (Operation.run returning (.empty fun _ => default)).history ⟨"s"⟩
        = .ofChanges ⟨"s"⟩ (changesTo ⟨"s"⟩
            (Operation.deeds returning (.empty fun _ => default))) ∧
      ((Operation.run returning (.empty fun _ => default)).history ⟨"s"⟩).entries.map
          Entry.streamVersion = [4, 5] ∧
      ((Operation.run returning (.empty fun _ => default)).history ⟨"s"⟩).snapshot
        = some ⟨2, .null⟩ :=
  ⟨by decide, (reads_changes (fun _ => default) returning (by decide)).1, by decide, by decide⟩

end Journal

end EventJournal
