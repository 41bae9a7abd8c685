/-
EventJournal/Proofs/Journal/Replay.lean

The log alone tells the history of a journal.

Commit the entries of a log once more, one at a time and in its order, to a journal
without entries: each to its own stream, under the version it had, with its metadata.  The
journal cannot refuse one of them.  The streams of a prefix of the log have the versions
that the next entry goes on from, since every reachable journal is `Indexed`, and where
nothing but appends happens no stream is ever closed.

`Journal.Mirrors` is what the two logs share on the way: they differ in stamps only.  One
more entry keeps it (`Mirrors.recommit`), and so does the rest of a log (`Mirrors.replay`).

Main result: whatever made a journal, replaying what a reader was given from the start
succeeds throughout and gives the same entries (`rebuilds_run`).
-/
import EventJournal.Proofs.Journal.Index

namespace EventJournal

/-- The request to commit the entry once more, where it stood in its stream. -/
def Entry.recommit (e : Entry) : Append :=
  { stream := e.stream
    expected := .exact e.streamVersion
    entries := [e.toNew]
    metadata := e.metadata }

namespace Journal

/-- The operations that commit entries once more, one by one. -/
def replay (es : List Entry) : List Operation := es.map fun e => .append e.recommit

/-- The outcome of an append that commits a copy of the entry and nothing else. -/
def CommitsCopy (outcome : Operation.Outcome) (e : Entry) : Prop :=
  ∃ r, outcome = .ok (some r) ∧ r.entries.map Entry.unstamped = [e.unstamped]

/-! ### Logs that differ in stamps -/

theorem map_unstamped_entriesIn (log : List Entry) (id : StreamId) :
    (entriesIn log id).map Entry.unstamped = entriesIn (log.map Entry.unstamped) id := by
  unfold entriesIn
  rw [List.filter_map]
  rfl

/-- Logs that differ in stamps have as many entries of each stream. -/
theorem length_entriesIn_of_unstamped {log log' : List Entry}
    (h : log.map Entry.unstamped = log'.map Entry.unstamped) (id : StreamId) :
    (entriesIn log id).length = (entriesIn log' id).length := by
  have hmap : (entriesIn log id).map Entry.unstamped = (entriesIn log' id).map Entry.unstamped := by
    rw [map_unstamped_entriesIn, map_unstamped_entriesIn, h]
  simpa using congrArg List.length hmap

/-- The next entry of a log has the next version of its stream, and the next position. -/
theorem Indexed.numbered {j : Journal} (h : j.Indexed) {before after : List Entry} {e : Entry}
    (hlog : j.log = before ++ e :: after) :
    e.streamVersion = (entriesIn before e.stream).length + 1 ∧
      e.globalPosition = before.length := by
  have hmine : entriesIn (e :: after) e.stream = e :: entriesIn after e.stream :=
    List.filter_cons_of_pos (by simp)
  have hstream : (entriesIn j.log e.stream)[(entriesIn before e.stream).length]? = some e := by
    simp [hlog, entriesIn_append, hmine]
  have hplace : j.log[before.length]? = some e := by
    simp [hlog]
  exact ⟨(h.streamVersion_eq hstream).2, h.globalPosition_eq hplace⟩

/-! ### One entry -/

/-- The journal holds copies of these entries, and all its streams are open. -/
structure Mirrors (j : Journal) (es : List Entry) : Prop where
  indexed : j.Indexed
  log : j.log.map Entry.unstamped = es.map Entry.unstamped
  active : ∀ id, j.statusOf id = .active

theorem mirrors_empty (stamps : Nat → Stamp) : (empty stamps).Mirrors [] where
  indexed := indexed_empty stamps
  log := rfl
  active _ := rfl

/-- The next entry of a log is committed once more. -/
theorem Mirrors.recommit {j j' : Journal} {before after : List Entry} {e : Entry}
    (h : j'.Mirrors before) (hj : j.Indexed) (hlog : j.log = before ++ e :: after) :
    CommitsCopy ((Operation.append e.recommit).perform j').1 e ∧
      ((Operation.append e.recommit).perform j').2.Mirrors (before ++ [e]) := by
  obtain ⟨hversion, hposition⟩ := hj.numbered hlog
  have hlength : j'.length = before.length := by
    simpa [Journal.length] using congrArg List.length h.log
  have hcurrent : j'.version e.stream + 1 = e.streamVersion := by
    rw [h.indexed.version_eq, length_entriesIn_of_unstamped h.log, hversion]
  have hwell : e.recommit.WellFormed := by
    obtain ⟨hname, hnew⟩ := hj.wellTyped e (hlog ▸ by simp)
    exact ⟨hname, by simp [Entry.recommit], by simpa [Entry.recommit] using hnew⟩
  -- nothing was closed on the way here, and the version expected is the one that comes next
  have hopen : j'.statusOf e.recommit.stream ≠ .tombstoned := by simp [h.active]
  have hnone : j'.refusal? e.recommit = none := refusal?_eq_none_iff.2 ⟨hopen, hcurrent⟩
  rcases append_cases j' e.recommit with ⟨err, herr, -⟩ | ⟨-, -, happ⟩
  · rw [Append.flaw?_eq_none_iff.2 hwell, hnone] at herr
    cases herr
  · have hcommits := commits_commit hopen
    have hcopy : (j'.commit e.recommit).1.entries.map Entry.unstamped = [e.unstamped] := by
      simp [commit, Append.commit, Entry.recommit, Entry.unstamped, Entry.toNew, hcurrent,
        hlength, ← hposition]
    simp only [Operation.perform, happ]
    refine ⟨⟨_, rfl, hcopy⟩, h.indexed.of_commits hwell hcommits, ?_, ?_⟩
    · rw [hcommits.log, List.map_append, List.map_append, h.log, hcopy, List.map_singleton]
    · intro id
      by_cases hid : id = e.stream
      · subst hid
        exact congrArg StreamRecord.status (recordOf_of_get? hcommits.record)
      · rw [← h.active id, statusOf, statusOf, recordOf, recordOf, Table.getD, Table.getD,
          hcommits.others id hid]

/-! ### Whole logs -/

/-- The rest of a log is committed once more, by induction on its entries. -/
theorem Mirrors.replay {j j' : Journal} {before es after : List Entry} (h : j'.Mirrors before)
    (hj : j.Indexed) (hlog : j.log = before ++ es ++ after) :
    List.Forall₂ CommitsCopy (Operation.outcomes (Journal.replay es) j') es ∧
      (Operation.run (Journal.replay es) j').Mirrors (before ++ es) := by
  induction es generalizing before j' with
  | nil => exact ⟨.nil, by simpa [Journal.replay] using h⟩
  | cons e rest ih =>
    -- the next entry stands behind what was committed so far
    have hsplit : j.log = before ++ e :: (rest ++ after) := by simp [hlog]
    obtain ⟨hcopy, hnext⟩ := h.recommit hj hsplit
    obtain ⟨hcopies, hrest⟩ := ih hnext (by simp [hlog])
    exact ⟨.cons hcopy hcopies, by simpa [Journal.replay] using hrest⟩

/-- The entries, committed once more to a journal without entries, make up its log. -/
structure Rebuilds (stamps : Nat → Stamp) (es : List Entry) : Prop where
  /-- Every append succeeds, with a copy of its entry. -/
  succeeds : List.Forall₂ CommitsCopy (Operation.outcomes (replay es) (.empty stamps)) es
  /-- The logs differ in stamps only. -/
  log : (Operation.run (replay es) (.empty stamps)).log.map Entry.unstamped
    = es.map Entry.unstamped

/-- **The log alone rebuilds the history of a journal**, whatever operations made it: a reader
at the start is given the whole log, and what it was given is rebuilt, under any stamps. -/
theorem rebuilds_run (stamps stamps' : Nat → Stamp) (ops : List Operation) :
    let j := Operation.run ops (.empty stamps)
    (∀ name, (Readers.empty.readNext j name j.length).1 = j.log) ∧
      ∀ name most, Rebuilds stamps' (Readers.empty.readNext j name most).1 := by
  intro j
  refine ⟨fun name => List.take_length, fun name most => ?_⟩
  -- what a reader was given is how the log begins
  have hlog : j.log = [] ++ j.log.take most ++ j.log.drop most :=
    (List.take_append_drop most j.log).symm
  obtain ⟨hcopies, hmirrors⟩ :=
    (mirrors_empty stamps').replay ((indexed_empty stamps).run ops) hlog
  exact ⟨hcopies, hmirrors.log⟩

end Journal

end EventJournal
