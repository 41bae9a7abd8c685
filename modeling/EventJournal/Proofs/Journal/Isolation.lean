/-
EventJournal/Proofs/Journal/Isolation.lean

Streams do not interfere.

All streams share one log and are read through positions in it.  The positions of a
stream tell how much was written to the others, and the stamps tell when; nothing else
does.  The aspect of a stream is what the journal keeps of it with these two erased
(`Journal.aspect`).  An operation on another stream leaves it alone (`aspect_perform_of_ne`);
how an operation on the stream itself ends, and what it makes of the aspect, depends on the
aspect and on nothing else (`perform_of_aspect`).  That readers depend on it as well needs
the agreement of log and index, since they follow the positions.

Main result: leave out of a history all operations on other streams, and those on the
stream answer the same and show the same in the end (`isolated_run`), whatever the stamps.
-/
import EventJournal.Proofs.Journal.Visibility

namespace EventJournal

/-! ### Without places -/

/-- The record without the places of the entries; it keeps how many there are. -/
def StreamRecord.unplaced (r : StreamRecord) : StreamRecord :=
  { r with positions := r.positions.map fun _ => 0 }

/-- The answer without stamps and global positions. -/
def AppendResult.unplaced (r : AppendResult) : AppendResult :=
  { r with entries := r.entries.map Entry.unplaced }

/-- The history without stamps and global positions. -/
def StreamHistory.unplaced (s : StreamHistory) : StreamHistory :=
  { s with entries := s.entries.map Entry.unplaced }

/-- The operation and what it answered, without stamps and global positions. -/
def Deed.unplaced (d : Deed) : Deed :=
  ⟨d.operation, d.outcome.map (Option.map AppendResult.unplaced)⟩

@[simp] theorem StreamRecord.version_unplaced (r : StreamRecord) :
    r.unplaced.version = r.version := List.length_map ..

namespace Journal

/-! ### One stream of a journal -/

/-- What a journal keeps of one stream. -/
structure Aspect where
  /-- The record, if the stream is known. -/
  record : Option StreamRecord
  entries : List Entry

/-- What the journal keeps of the stream, without stamps and global positions. -/
def aspect (j : Journal) (id : StreamId) : Aspect where
  record := (j.streams.get? id).map StreamRecord.unplaced
  entries := (entriesIn j.log id).map Entry.unplaced

variable {j j' : Journal} {id : StreamId}

theorem aspect_eq_iff : j.aspect id = j'.aspect id ↔
    (j.streams.get? id).map StreamRecord.unplaced = (j'.streams.get? id).map StreamRecord.unplaced ∧
      (entriesIn j.log id).map Entry.unplaced = (entriesIn j'.log id).map Entry.unplaced :=
  Iff.of_eq (Aspect.mk.injEq ..)

/-- The record of a stream is part of its aspect. -/
theorem recordOf_of_aspect (h : j.aspect id = j'.aspect id) :
    (j.recordOf id).unplaced = (j'.recordOf id).unplaced := by
  have hrecord (j : Journal) : (j.recordOf id).unplaced = (j.aspect id).record.getD {} := by
    unfold recordOf Table.getD aspect
    cases j.streams.get? id <;> rfl
  rw [hrecord, hrecord, h]

theorem statusOf_of_aspect (h : j.aspect id = j'.aspect id) : j.statusOf id = j'.statusOf id :=
  (congrArg StreamRecord.status (recordOf_of_aspect h) :)

theorem version_of_aspect (h : j.aspect id = j'.aspect id) : j.version id = j'.version id := by
  unfold version
  -- to erase places does not change how many there are
  rw [← StreamRecord.version_unplaced, recordOf_of_aspect h, StreamRecord.version_unplaced]

/-- Records that differ in places only make the same aspect. -/
theorem aspect_setRecord (h : j.aspect id = j'.aspect id) {r r' : StreamRecord}
    (hr : r.unplaced = r'.unplaced) :
    (j.setRecord id r).aspect id = (j'.setRecord id r').aspect id := by
  refine aspect_eq_iff.2 ⟨?_, (aspect_eq_iff.1 h).2⟩
  rw [streams_setRecord, streams_setRecord, Table.get?_insert_self, Table.get?_insert_self]
  exact congrArg some hr

/-! ### Operations on other streams -/

/-- An operation on another stream leaves the aspect of the stream alone. -/
theorem aspect_perform_of_ne {op : Operation} (j : Journal) (h : op.target ≠ id) :
    (op.perform j).2.aspect id = j.aspect id := by
  rcases op.perform_cases j with ⟨e, hop⟩ | ⟨a, r, rfl, -, -, -, hcommits⟩ |
    ⟨c, r, -, -, -, -, hop⟩
  · rw [hop]
  · -- the entries went to another stream, and only its record was written
    have hne : ∀ e ∈ r.entries, e.stream ≠ id := fun e he => (hcommits.stream e he).trans_ne h
    unfold aspect
    rw [hcommits.others id (Ne.symm h), hcommits.log, entriesIn_append,
      entriesIn_of_forall_ne hne, List.append_nil]
  · rw [hop]
    unfold aspect
    rw [streams_setRecord, Table.get?_insert_of_ne _ _ (Ne.symm h), log_setRecord]

/-! ### Operations on the stream -/

/-- A commit adds as many places to either record. -/
theorem committed_of_unplaced {r r' : StreamRecord} (h : r.unplaced = r'.unplaced)
    (start start' count : Nat) (snapshot : Option Snapshot) :
    (committed r start count snapshot).unplaced
      = (committed r' start' count snapshot).unplaced := by
  obtain ⟨status, horizon, positions, kept⟩ := r
  obtain ⟨status', horizon', positions', kept'⟩ := r'
  obtain ⟨rfl, rfl, hpositions, rfl⟩ := StreamRecord.mk.inj h
  simp only [committed, StreamRecord.unplaced, List.map_append, hpositions, List.map_const',
    List.length_range']

/-- Entries that are committed after the same version differ in stamps and global positions
only. -/
theorem map_unplaced_commit (a : Append) (stamps stamps' : Nat → Stamp)
    (current start start' : Nat) :
    (a.commit stamps current start).map Entry.unplaced
      = (a.commit stamps' current start').map Entry.unplaced := by
  apply List.ext_getElem
  · simp [Append.commit]
  · intro k _ _
    simp [Append.commit, Entry.unplaced, Entry.unstamped]

/-- A commit goes by the version and the record of its stream. -/
theorem commit_of_aspect {a : Append} (h : j.aspect a.stream = j'.aspect a.stream) :
    (j.commit a).1.unplaced = (j'.commit a).1.unplaced ∧
      (j.commit a).2.aspect a.stream = (j'.commit a).2.aspect a.stream := by
  have hrecord := committed_of_unplaced (recordOf_of_aspect h) j.length j'.length
    a.entries.length a.snapshot
  have hentries : (j.commit a).1.entries.map Entry.unplaced
      = (j'.commit a).1.entries.map Entry.unplaced := by
    show (a.commit j.stamps (j.version a.stream) j.length).map Entry.unplaced = _
    rw [version_of_aspect h]
    exact map_unplaced_commit ..
  have hversion : (j.commit a).1.streamVersion = (j'.commit a).1.streamVersion := by
    have hlength := congrArg StreamRecord.version hrecord
    rwa [StreamRecord.version_unplaced, StreamRecord.version_unplaced] at hlength
  constructor
  · unfold AppendResult.unplaced
    rw [hentries, hversion]
    rfl
  · -- what is committed is all of this stream, so it comes behind the stream's entries
    have hstream (j : Journal) : (entriesIn (j.commit a).2.log a.stream).map Entry.unplaced
        = (entriesIn j.log a.stream).map Entry.unplaced
          ++ (j.commit a).1.entries.map Entry.unplaced := by
      show (entriesIn (j.log ++ (j.commit a).1.entries) a.stream).map _ = _
      have hall : ∀ e ∈ (j.commit a).1.entries, e.stream = a.stream :=
        fun e he => (Append.eq_of_mem_commit he).1
      rw [entriesIn_append, List.map_append, entriesIn_of_forall hall]
    have hget (j : Journal) : (j.commit a).2.streams.get? a.stream
        = some (committed (j.recordOf a.stream) j.length a.entries.length a.snapshot) :=
      Table.get?_insert_self ..
    refine aspect_eq_iff.2 ⟨?_, ?_⟩
    · rw [hget, hget]
      exact congrArg some hrecord
    · rw [hstream, hstream, (aspect_eq_iff.1 h).2, hentries]

/-- An append is judged by the status and the version of its stream. -/
theorem append_of_aspect {a : Append} (h : j.aspect a.stream = j'.aspect a.stream) :
    (j.append a).1.map AppendResult.unplaced = (j'.append a).1.map AppendResult.unplaced ∧
      (j.append a).2.aspect a.stream = (j'.append a).2.aspect a.stream := by
  have hrefusal : j.refusal? a = j'.refusal? a := by
    unfold refusal?
    rw [statusOf_of_aspect h, version_of_aspect h]
  unfold append
  rw [hrefusal]
  cases a.flaw?.or (j'.refusal? a) with
  | some e => exact ⟨rfl, h⟩
  | none =>
    obtain ⟨hresult, haspect⟩ := commit_of_aspect h
    exact ⟨congrArg Except.ok hresult, haspect⟩

/-- An update that does not look at places is refused in both journals for the same reason, or
goes through in both. -/
theorem update_of_aspect {change : StreamRecord → Except JournalError StreamRecord}
    (hchange : ∀ r, (change r).map StreamRecord.unplaced
      = (change r.unplaced).map StreamRecord.unplaced)
    (h : j.aspect id = j'.aspect id) :
    (j.update id change).1 = (j'.update id change).1 ∧
      (j.update id change).2.aspect id = (j'.update id change).2.aspect id := by
  have hget := (aspect_eq_iff.1 h).1
  unfold update
  split
  · exact ⟨rfl, h⟩
  · -- both journals know the stream, or neither does
    rcases hr : j.streams.get? id with - | r <;> rcases hr' : j'.streams.get? id with - | r' <;>
      rw [hr, hr'] at hget
    · exact ⟨rfl, h⟩
    · cases hget
    · cases hget
    · have hrecord : r.unplaced = r'.unplaced := Option.some.inj hget
      have hmade : (change r).map StreamRecord.unplaced
          = (change r').map StreamRecord.unplaced := by
        rw [hchange r, hrecord, ← hchange r']
      dsimp only
      rcases hc : change r with e | s <;> rcases hc' : change r' with e' | s' <;>
        rw [hc, hc'] at hmade
      · exact ⟨congrArg Except.error (Except.error.inj hmade), h⟩
      · cases hmade
      · cases hmade
      · exact ⟨rfl, aspect_setRecord h (Except.ok.inj hmade)⟩

/-- How an operation on the stream ends, and what it makes of the aspect, depends on the aspect
only. -/
theorem perform_of_aspect {op : Operation} (h : j.aspect op.target = j'.aspect op.target) :
    (op.deed j).unplaced = (op.deed j').unplaced ∧
      (op.perform j).2.aspect op.target = (op.perform j').2.aspect op.target := by
  have hupdated {change : StreamRecord → Except JournalError StreamRecord}
      (hanswer : (j.update op.target change).1 = (j'.update op.target change).1) :
      (⟨op, (j.update op.target change).1.map fun _ => none⟩ : Deed).unplaced
        = (⟨op, (j'.update op.target change).1.map fun _ => none⟩ : Deed).unplaced := by
    rw [hanswer]
  cases op with
  | append a =>
    obtain ⟨hanswer, haspect⟩ := append_of_aspect h
    have houtcome (j : Journal) : ((j.append a).1.map some).map (Option.map AppendResult.unplaced)
        = ((j.append a).1.map AppendResult.unplaced).map some := by
      cases (j.append a).1 <;> rfl
    refine ⟨?_, haspect⟩
    refine congrArg (Deed.mk (.append a)) ?_
    show ((j.append a).1.map some).map _ = ((j'.append a).1.map some).map _
    rw [houtcome, houtcome, hanswer]
  | _ =>
    refine (update_of_aspect (fun r => ?_) h).imp_left hupdated
    unfold StreamRecord.unplaced
    dsimp only
    split <;> simp [Except.map]

/-! ### Readers -/

/-- What readers of the stream are shown depends on the aspect only, if the positions lead to
its entries in both journals. -/
theorem reads_of_aspect (hj : j.Indexed) (hj' : j'.Indexed) (h : j.aspect id = j'.aspect id) :
    j.summary id = j'.summary id ∧ (j.history id).unplaced = (j'.history id).unplaced := by
  -- positions that lead to the stream's entries can be left out of what is visible
  have hvisible {j : Journal} (hj : j.Indexed) :
      (j.visible (j.recordOf id)).map Entry.unplaced
        = (j.aspect id).entries.filter fun e => (j.recordOf id).unplaced.status = .active
            && (j.recordOf id).unplaced.truncateBefore ≤ e.streamVersion := by
    rw [visible, hj.entriesOf_eq, aspect, List.filter_map]
    rfl
  have hentries : (j.visible (j.recordOf id)).map Entry.unplaced
      = (j'.visible (j'.recordOf id)).map Entry.unplaced := by
    rw [hvisible hj, hvisible hj', h, recordOf_of_aspect h]
  have hknown : (j.streams.get? id).isSome = (j'.streams.get? id).isSome := by
    rw [← Option.isSome_map (f := StreamRecord.unplaced), (aspect_eq_iff.1 h).1, Option.isSome_map]
  have hrecord := recordOf_of_aspect h
  have hhorizon : (j.recordOf id).truncateBefore = (j'.recordOf id).truncateBefore :=
    (congrArg StreamRecord.truncateBefore hrecord :)
  have hsnapshot : (j.recordOf id).snapshot = (j'.recordOf id).snapshot :=
    (congrArg StreamRecord.snapshot hrecord :)
  constructor
  · have hcount := congrArg List.length hentries
    rw [List.length_map, List.length_map] at hcount
    unfold summary
    rw [summaryOf_eq, summaryOf_eq, hknown, version_of_aspect h, statusOf_of_aspect h, hhorizon,
      hcount]
  · unfold StreamHistory.unplaced
    rw [history_eq, history_eq]
    dsimp only
    rw [hentries, version_of_aspect h, statusOf_of_aspect h, hsnapshot]

end Journal

/-! ### Two histories -/

namespace Operation

/-- The operations on the stream, in order. -/
def on (id : StreamId) (ops : List Operation) : List Operation :=
  ops.filter fun op => op.target = id

/-- The deeds that were about the stream, without stamps and global positions. -/
def deedsOn (id : StreamId) (ops : List Operation) (j : Journal) : List Deed :=
  ((deeds ops j).filter fun d => d.operation.target = id).map Deed.unplaced

variable {id : StreamId} {j j' : Journal}

/-- The operations on other streams can be left out, by induction on the operations. -/
theorem on_run_of_aspect (ops : List Operation) (h : j.aspect id = j'.aspect id) :
    deedsOn id ops j = (deeds (on id ops) j').map Deed.unplaced ∧
      (run ops j).aspect id = (run (on id ops) j').aspect id := by
  induction ops generalizing j j' with
  | nil => exact ⟨rfl, h⟩
  | cons op rest ih =>
    by_cases hop : op.target = id
    · subst hop
      -- the operation is in both histories, and does the same in both
      obtain ⟨hdeed, haspect⟩ := Journal.perform_of_aspect h
      obtain ⟨hdeeds, hrun⟩ := ih haspect
      have hon : on op.target (op :: rest) = op :: on op.target rest :=
        List.filter_cons_of_pos (by simp)
      have hdeedsOn : deedsOn op.target (op :: rest) j
          = (op.deed j).unplaced :: deedsOn op.target rest (op.perform j).2 := by
        unfold deedsOn
        rw [deeds_cons, List.filter_cons_of_pos (by simp [deed]), List.map_cons]
      rw [hon, hdeedsOn, hdeed, hdeeds]
      exact ⟨rfl, hrun⟩
    · -- it is in one history only, and is not seen there
      obtain ⟨hdeeds, hrun⟩ := ih ((Journal.aspect_perform_of_ne j hop).trans h)
      have hon : on id (op :: rest) = on id rest := List.filter_cons_of_neg (by simp [hop])
      have hdeedsOn : deedsOn id (op :: rest) j = deedsOn id rest (op.perform j).2 := by
        unfold deedsOn
        rw [deeds_cons, List.filter_cons_of_neg (by simp [deed, hop])]
      rw [hon, hdeedsOn]
      exact ⟨hdeeds, hrun⟩

end Operation

namespace Journal

/-- **Streams do not interfere.**  In a history, the operations on a stream answer the same, and
the stream shows the same in the end, as if they were the only ones, apart from stamps and
global positions. -/
theorem isolated_run (stamps stamps' : Nat → Stamp) (ops : List Operation) (id : StreamId) :
    Operation.deedsOn id ops (.empty stamps)
        = (Operation.deeds (Operation.on id ops) (.empty stamps')).map Deed.unplaced ∧
      (Operation.run ops (.empty stamps)).summary id
        = (Operation.run (Operation.on id ops) (.empty stamps')).summary id ∧
      ((Operation.run ops (.empty stamps)).history id).unplaced
        = ((Operation.run (Operation.on id ops) (.empty stamps')).history id).unplaced := by
  have hempty : (empty stamps).aspect id = (empty stamps').aspect id := rfl
  obtain ⟨hdeeds, haspect⟩ := Operation.on_run_of_aspect ops hempty
  have hj := (indexed_empty stamps).run ops
  have hj' := (indexed_empty stamps').run (Operation.on id ops)
  exact ⟨hdeeds, reads_of_aspect hj hj' haspect⟩

end Journal

end EventJournal
