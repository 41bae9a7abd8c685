/-
EventJournal/Proofs/Journal/Commit.lean

An append is all or nothing.  A request is first judged by itself (`Append.WellFormed`),
then against the stream: a tombstone, then the expected version.  The first objection is
the answer, and then the journal is the one from before, down to the set of known
streams.  If there is none, the new entries stand at the end of the log in the order of
the request, numbered on from the stream and from the log; the record of the stream is
brought up to date, and the records of the other streams stay (`Journal.Commits`).

Main result: `append_refuses_or_commits`, for every journal and every request.  Nothing is
asked of the journal: the checks and the commit look at the record of the stream only.

`append_cases` and `update_cases` say once what the operations on a journal can do; what
is proved of histories elsewhere starts from them.
-/
import EventJournal.Journal.Operation
import Mathlib.Data.List.Basic

namespace EventJournal

/-! ### Requests -/

namespace Append

/-- The request names a stream and holds at least one entry, and its entries are in order. -/
def WellFormed (a : Append) : Prop :=
  a.stream.name ≠ "" ∧ a.entries ≠ [] ∧ ∀ e ∈ a.entries, e.WellTyped

/-- Nothing is wrong with an entry that is in order. -/
theorem entryFlaw?_eq_none_iff {i : Nat} {e : NewEntry} :
    entryFlaw? i e = none ↔ e.WellTyped := by
  unfold entryFlaw? NewEntry.WellTyped
  split
  · simp [*]
  · split
    · simp [*]
    · simp only [true_iff]
      refine ⟨‹_›, ?_⟩
      omega

/-- Entries are looked at one by one, and all of them have to be in order. -/
theorem entriesFlaw?_eq_none_iff {i : Nat} {es : List NewEntry} :
    entriesFlaw? i es = none ↔ ∀ e ∈ es, e.WellTyped := by
  induction es generalizing i with
  | nil => simp [entriesFlaw?]
  | cons e rest ih =>
    rw [entriesFlaw?, Option.or_eq_none_iff, entryFlaw?_eq_none_iff, ih]
    simp

/-- The stream is looked at first, then whether there are entries at all, and then these. -/
theorem flaw?_eq_none_iff {a : Append} : a.flaw? = none ↔ a.WellFormed := by
  unfold flaw? WellFormed StreamId.isEmpty
  by_cases hid : a.stream.name = ""
  · simp [hid]
  · by_cases hes : a.entries = []
    · simp [hid, hes]
    · simp [hid, hes, entriesFlaw?_eq_none_iff]

theorem entryFlaw?_eq_some {i : Nat} {e : NewEntry} {err : JournalError}
    (h : entryFlaw? i e = some err) : ∃ text, err = .invalidArgument text := by
  unfold entryFlaw? at h
  split at h
  · exact ⟨_, (Option.some.inj h).symm⟩
  · split at h
    · exact ⟨_, (Option.some.inj h).symm⟩
    · cases h

theorem entriesFlaw?_eq_some {i : Nat} {es : List NewEntry} {err : JournalError}
    (h : entriesFlaw? i es = some err) : ∃ text, err = .invalidArgument text := by
  induction es generalizing i with
  | nil => cases h
  | cons e rest ih =>
    rw [entriesFlaw?, Option.or_eq_some_iff] at h
    rcases h with h | ⟨-, h⟩
    · exact entryFlaw?_eq_some h
    · exact ih h

/-- Whatever is wrong with a request by itself is the caller's mistake. -/
theorem flaw?_eq_some {a : Append} {err : JournalError} (h : a.flaw? = some err) :
    ∃ text, err = .invalidArgument text := by
  unfold flaw? at h
  split at h
  · exact ⟨_, (Option.some.inj h).symm⟩
  · split at h
    · exact ⟨_, (Option.some.inj h).symm⟩
    · exact entriesFlaw?_eq_some h

/-! ### The committed entries -/

variable {a : Append} {stamps : Nat → Stamp} {current start : Nat}

/-- Every new entry is one of the request, in its stream and with its metadata. -/
theorem eq_of_mem_commit {e : Entry} (h : e ∈ a.commit stamps current start) :
    e.stream = a.stream ∧ e.metadata = a.metadata ∧ e.toNew ∈ a.entries := by
  obtain ⟨k, hk, rfl⟩ := List.mem_mapIdx.1 h
  exact ⟨rfl, rfl, List.getElem_mem hk⟩

/-- Committing adds to entries and takes nothing away. -/
theorem map_toNew_commit : (a.commit stamps current start).map Entry.toNew = a.entries := by
  apply List.ext_getElem
  · simp [commit]
  · intro k _ _
    simp [commit, Entry.toNew]

/-- New entries are numbered on in their stream. -/
theorem map_streamVersion_commit :
    (a.commit stamps current start).map Entry.streamVersion
      = List.range' (current + 1) a.entries.length := by
  apply List.ext_getElem
  · simp [commit]
  · intro k _ _
    simp [commit]

/-- They are numbered on in the log. -/
theorem map_globalPosition_commit :
    (a.commit stamps current start).map Entry.globalPosition
      = List.range' start a.entries.length := by
  apply List.ext_getElem
  · simp [commit]
  · intro k _ _
    simp [commit]

end Append

/-! ### What the operations can do -/

namespace Journal

/-- A stream refuses nothing exactly if it is not closed and has the version that is expected. -/
theorem refusal?_eq_none_iff {j : Journal} {a : Append} :
    j.refusal? a = none ↔
      j.statusOf a.stream ≠ .tombstoned ∧ a.expected.Matches (j.version a.stream) := by
  unfold refusal?
  split
  · simp [*]
  · split <;> simp [*]

/-- An append is refused and changes nothing, or nothing speaks against it and it commits. -/
theorem append_cases (j : Journal) (a : Append) :
    (∃ e, a.flaw?.or (j.refusal? a) = some e ∧ j.append a = (.error e, j)) ∨
      (a.WellFormed ∧ j.refusal? a = none ∧ j.append a = (.ok (j.commit a).1, (j.commit a).2)) := by
  unfold append
  cases h : a.flaw?.or (j.refusal? a) with
  | some e => exact Or.inl ⟨e, rfl, rfl⟩
  | none =>
    -- the request was judged first and then the stream, and neither check has objected
    obtain ⟨hf, hr⟩ := Option.or_eq_none_iff.1 h
    exact Or.inr ⟨Append.flaw?_eq_none_iff.1 hf, hr, rfl⟩

/-- An update is refused and changes nothing, or it replaces the record of a known stream. -/
theorem update_cases (j : Journal) (id : StreamId)
    (change : StreamRecord → Except JournalError StreamRecord) :
    (∃ e, j.update id change = (.error e, j)) ∨
      ∃ r r', j.streams.get? id = some r ∧ change r = .ok r' ∧
        j.update id change = (.ok (), j.setRecord id r') := by
  unfold update
  split
  · exact Or.inl ⟨_, rfl⟩
  · split
    · exact Or.inl ⟨_, rfl⟩
    · rename_i r hr
      split
      · exact Or.inl ⟨_, rfl⟩
      · rename_i r' hr'
        exact Or.inr ⟨r, r', hr, hr', rfl⟩

/-! ### Committing -/

/-- The answer `r` and the journal `j'` are those of a commit of `a` to `j`. -/
structure Commits (j : Journal) (a : Append) (r : AppendResult) (j' : Journal) : Prop where
  /-- The log is the old one followed by the new entries. -/
  log : j'.log = j.log ++ r.entries
  /-- The new entries are those of the request, in its order. -/
  toNew : r.entries.map Entry.toNew = a.entries
  stream : ∀ e ∈ r.entries, e.stream = a.stream
  metadata : ∀ e ∈ r.entries, e.metadata = a.metadata
  /-- The new entries go on from the version of the stream. -/
  streamVersion : r.entries.map Entry.streamVersion
    = List.range' (j.version a.stream + 1) a.entries.length
  /-- The new entries go on from the end of the log. -/
  globalPosition : r.entries.map Entry.globalPosition = List.range' j.length a.entries.length
  answered : r.stream = a.stream ∧ r.streamVersion = j.version a.stream + a.entries.length
  /-- The stream is active; its horizon stays, and its snapshot unless a new one is supplied. -/
  record : j'.streams.get? a.stream = some
    { status := .active
      truncateBefore := (j.recordOf a.stream).truncateBefore
      positions := (j.recordOf a.stream).positions ++ List.range' j.length a.entries.length
      snapshot := a.snapshot.or (j.recordOf a.stream).snapshot }
  /-- The other streams stay as they are. -/
  others : ∀ id, id ≠ a.stream → j'.streams.get? id = j.streams.get? id
  stamps : j'.stamps = j.stamps

/-- A record that is not tombstoned is active after a commit. -/
theorem committed_eq {r : StreamRecord} (h : r.status ≠ .tombstoned) (start count : Nat)
    (snapshot : Option Snapshot) :
    committed r start count snapshot
      = { status := .active
          truncateBefore := r.truncateBefore
          positions := r.positions ++ List.range' start count
          snapshot := snapshot.or r.snapshot } := by
  obtain ⟨status, _, _, _⟩ := r
  cases status with
  | active => rfl
  | softDeleted => rfl
  | tombstoned => exact absurd rfl h

/-- What commits is the stream of the request, unless it has a tombstone. -/
theorem commits_commit {j : Journal} {a : Append} (h : j.statusOf a.stream ≠ .tombstoned) :
    j.Commits a (j.commit a).1 (j.commit a).2 where
  log := rfl
  toNew := Append.map_toNew_commit
  stream _ he := (Append.eq_of_mem_commit he).1
  metadata _ he := (Append.eq_of_mem_commit he).2.1
  streamVersion := Append.map_streamVersion_commit
  globalPosition := Append.map_globalPosition_commit
  answered := by
    refine ⟨rfl, ?_⟩
    simp [commit, committed, StreamRecord.version, version]
  record := by
    rw [← committed_eq h]
    exact Table.get?_insert_self ..
  others _ hid := Table.get?_insert_of_ne _ _ hid
  stamps := rfl

/-! ### All or nothing -/

/-- **An append commits all of its entries or changes nothing.**  It succeeds exactly if the
request is in order, the stream has no tombstone and its version is the expected one; the
first of these that fails is the error. -/
theorem append_refuses_or_commits (j : Journal) (a : Append) :
    ((∃ r, (j.append a).1 = .ok r) ↔
      a.WellFormed ∧ j.statusOf a.stream ≠ .tombstoned ∧
        a.expected.Matches (j.version a.stream)) ∧
    (¬ a.WellFormed → ∃ text, j.append a = (.error (.invalidArgument text), j)) ∧
    (a.WellFormed → j.statusOf a.stream = .tombstoned →
      j.append a = (.error (.streamDeleted a.stream), j)) ∧
    (a.WellFormed → j.statusOf a.stream ≠ .tombstoned →
      ¬ a.expected.Matches (j.version a.stream) →
      j.append a
        = (.error (.concurrencyViolation a.stream a.expected (j.version a.stream)), j)) ∧
    ∀ r, (j.append a).1 = .ok r → j.Commits a r (j.append a).2 := by
  rcases append_cases j a with ⟨e, he, happ⟩ | ⟨hwf, href, happ⟩
  · rw [happ]
    refine ⟨?_, ?_, ?_, ?_, ?_⟩
    · constructor
      · rintro ⟨r, hr⟩
        cases hr
      · rintro ⟨hwf, hok⟩
        rw [Append.flaw?_eq_none_iff.2 hwf, refusal?_eq_none_iff.2 hok] at he
        cases he
    · -- what is wrong with the request itself is found before the stream is looked at
      intro hwf
      rcases Option.or_eq_some_iff.1 he with hf | ⟨hf, -⟩
      · obtain ⟨text, rfl⟩ := Append.flaw?_eq_some hf
        exact ⟨text, rfl⟩
      · exact absurd (Append.flaw?_eq_none_iff.1 hf) hwf
    · -- a tombstone is found before the version is compared
      intro hwf ht
      rw [Append.flaw?_eq_none_iff.2 hwf, Option.none_or, refusal?, if_pos ht] at he
      cases he
      rfl
    · intro hwf ht hm
      rw [Append.flaw?_eq_none_iff.2 hwf, Option.none_or, refusal?, if_neg ht, if_neg hm] at he
      cases he
      rfl
    · intro r hr
      cases hr
  · -- nothing spoke against it, so no case of an error arises
    obtain ⟨ht, hm⟩ := refusal?_eq_none_iff.1 href
    rw [happ]
    refine ⟨⟨fun _ => ⟨hwf, ht, hm⟩, fun _ => ⟨_, rfl⟩⟩, ?_, ?_, ?_, ?_⟩
    · exact fun h => absurd hwf h
    · exact fun _ h => absurd h ht
    · exact fun _ _ h => absurd hm h
    · intro r hr
      cases hr
      exact commits_commit ht

end Journal

end EventJournal
