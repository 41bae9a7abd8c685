/-
EventJournal/Journal/Basic.lean

The journal: one log of committed entries in commit order, and for every stream that
was ever written a record of where its entries stand in the log.  The two say the
same thing twice, and every operation keeps them in step.

An append is refused as a whole or committed as a whole.  It is checked in this
order: the request itself (`Append.flaw?`), a tombstone on the stream, the expected
version (`Journal.refusal?`).  Committing places the new entries at the end of the
log and of their stream (`Append.commit`), reopens a softly deleted stream and
replaces the snapshot if one is supplied.

Deleting and truncating never touch the log; they change what a reader of the stream
is shown.  A tombstone is final.  The horizon of a truncation never goes back.

Identity and time of the entries come from outside, one stamp for each position.
-/
import EventJournal.Stream.View
import EventJournal.Table

namespace EventJournal

/-- What the journal knows about one stream. -/
structure StreamRecord where
  status : StreamStatus := .active
  /-- Entries with a lower version are hidden. -/
  truncateBefore : Nat := 0
  /-- Where the entries stand in the log; the entry of version `v` is at index `v - 1`. -/
  positions : List Nat := []
  snapshot : Option Snapshot := none
deriving DecidableEq, Repr, Inhabited

/-- The highest version of the stream. -/
def StreamRecord.version (r : StreamRecord) : Nat := r.positions.length

/-- A log of entries and an index of it by streams. -/
structure Journal where
  /-- The stamp of the entry at each position. -/
  stamps : Nat → Stamp
  log : List Entry
  streams : Table StreamId StreamRecord

/-- A request to commit entries to a stream. -/
structure Append where
  stream : StreamId
  expected : ExpectedVersion
  entries : List NewEntry
  metadata : Metadata := .none
  snapshot : Option Snapshot := none
deriving DecidableEq, Repr

/-- What a successful append has done. -/
structure AppendResult where
  stream : StreamId
  /-- The version of the stream afterwards. -/
  streamVersion : Nat
  entries : List Entry
deriving DecidableEq, Repr

namespace AppendResult

def firstVersion (r : AppendResult) : Option Nat := r.entries.head?.map Entry.streamVersion

def lastVersion (r : AppendResult) : Option Nat := r.entries.getLast?.map Entry.streamVersion

def globalPositions (r : AppendResult) : List Nat := r.entries.map Entry.globalPosition

end AppendResult

/-! ### Requests -/

/-- The mistake of naming no stream. -/
def emptyStreamId : JournalError := .invalidArgument "stream id must not be empty"

namespace Append

/-- What is wrong with the entry at place `index` of a request. -/
def entryFlaw? (index : Nat) (e : NewEntry) : Option JournalError :=
  if e.entryType = "" then
    some (.invalidArgument ("entry type must not be empty (index " ++ toString index ++ ")"))
  else if e.typeVersion = 0 then
    some (.invalidArgument ("type version must be >= 1 (index " ++ toString index ++ ")"))
  else none

/-- The first flaw among entries that start at place `index`. -/
def entriesFlaw? (index : Nat) : List NewEntry → Option JournalError
  | [] => none
  | e :: rest => (entryFlaw? index e).or (entriesFlaw? (index + 1) rest)

/-- What is wrong with the request, whatever the journal holds. -/
def flaw? (a : Append) : Option JournalError :=
  if a.stream.isEmpty then some emptyStreamId
  else if a.entries = [] then some (.invalidArgument "append requires at least one entry")
  else entriesFlaw? 0 a.entries

/-- The entries as they are committed to a stream of version `current` of a journal
of length `start`. -/
def commit (a : Append) (stamps : Nat → Stamp) (current start : Nat) : List Entry :=
  a.entries.mapIdx fun k e =>
    { stamp := stamps (start + k)
      stream := a.stream
      entryType := e.entryType
      typeVersion := e.typeVersion
      payload := e.payload
      streamVersion := current + 1 + k
      globalPosition := start + k
      metadata := a.metadata }

end Append

namespace Journal

/-- The journal without entries. -/
def empty (stamps : Nat → Stamp) : Journal := ⟨stamps, [], ∅⟩

/-- The number of committed entries, which is the next global position. -/
def length (j : Journal) : Nat := j.log.length

/-- The record of a stream; one that was never written has the record without entries. -/
def recordOf (j : Journal) (id : StreamId) : StreamRecord := j.streams.getD id {}

/-- The highest version of a stream, zero if it was never written. -/
def version (j : Journal) (id : StreamId) : Nat := (j.recordOf id).version

def statusOf (j : Journal) (id : StreamId) : StreamStatus := (j.recordOf id).status

/-- Replaces the record of a stream. -/
def setRecord (j : Journal) (id : StreamId) (r : StreamRecord) : Journal :=
  { j with streams := j.streams.insert id r }

@[simp] theorem log_setRecord (j : Journal) (id : StreamId) (r : StreamRecord) :
    (j.setRecord id r).log = j.log := rfl

@[simp] theorem stamps_setRecord (j : Journal) (id : StreamId) (r : StreamRecord) :
    (j.setRecord id r).stamps = j.stamps := rfl

@[simp] theorem streams_setRecord (j : Journal) (id : StreamId) (r : StreamRecord) :
    (j.setRecord id r).streams = j.streams.insert id r := rfl

theorem recordOf_setRecord (j : Journal) (id id' : StreamId) (r : StreamRecord) :
    (j.setRecord id r).recordOf id' = if id' = id then r else j.recordOf id' := by
  unfold recordOf Table.getD
  rw [streams_setRecord, Table.get?_insert]
  split <;> rfl

/-! ### Appending -/

/-- Why the journal, as it stands, refuses a request without flaws. -/
def refusal? (j : Journal) (a : Append) : Option JournalError :=
  if j.statusOf a.stream = .tombstoned then some (.streamDeleted a.stream)
  else if a.expected.Matches (j.version a.stream) then none
  else some (.concurrencyViolation a.stream a.expected (j.version a.stream))

/-- The record of a stream after a commit of `count` entries at the end of a log of
length `start`. -/
def committed (r : StreamRecord) (start count : Nat) (snapshot : Option Snapshot) :
    StreamRecord :=
  { r with
    status := if r.status = .softDeleted then .active else r.status
    positions := r.positions ++ List.range' start count
    snapshot := snapshot.or r.snapshot }

/-- Commits a request that nothing speaks against. -/
def commit (j : Journal) (a : Append) : AppendResult × Journal :=
  let entries := a.commit j.stamps (j.version a.stream) j.length
  let record := committed (j.recordOf a.stream) j.length a.entries.length a.snapshot
  (⟨a.stream, record.version, entries⟩,
    { j with log := j.log ++ entries, streams := j.streams.insert a.stream record })

/-- Commits the entries of a request, or refuses all of them. -/
def append (j : Journal) (a : Append) : Except JournalError AppendResult × Journal :=
  match a.flaw?.or (j.refusal? a) with
  | some e => (.error e, j)
  | none =>
    let (result, j') := j.commit a
    (.ok result, j')

/-! ### Deleting and truncating -/

/-- Changes the record of a stream that was written, unless `change` refuses. -/
def update (j : Journal) (id : StreamId)
    (change : StreamRecord → Except JournalError StreamRecord) :
    Except JournalError Unit × Journal :=
  if id.isEmpty then (.error emptyStreamId, j)
  else match j.streams.get? id with
    | none => (.error (.notFound id), j)
    | some r => match change r with
      | .error e => (.error e, j)
      | .ok r' => (.ok (), j.setRecord id r')

/-- Closes a stream for good. -/
def tombstone (j : Journal) (id : StreamId) : Except JournalError Unit × Journal :=
  j.update id fun r =>
    if r.status = .tombstoned then .error (.alreadyTombstoned id)
    else .ok { r with status := .tombstoned }

/-- Hides a stream until the next append. -/
def softDelete (j : Journal) (id : StreamId) : Except JournalError Unit × Journal :=
  j.update id fun r =>
    if r.status = .active then .ok { r with status := .softDeleted }
    else .error (.alreadyDeleted id)

/-- Hides the entries of a stream below `version`; the horizon never goes back. -/
def truncateBefore (j : Journal) (id : StreamId) (version : Nat) :
    Except JournalError Unit × Journal :=
  j.update id fun r =>
    if r.status = .tombstoned then .error (.tombstoned id)
    else .ok { r with truncateBefore := max r.truncateBefore version }

end Journal

end EventJournal
