/-
EventJournal/Journal/Read.lean

Reading a journal, which never changes it.  A reader of one stream sees its entries
from the horizon on while the stream is active, and none otherwise; what it sees is
decided at the moment of the call.  A reader of the whole journal sees every entry.

Readers of the whole journal have names and keep a cursor, the position of the next
entry to be read.  A name stands for one cursor, whoever asks for it; a cursor beyond
the end of the log is allowed and yields nothing until the log has grown.
-/
import EventJournal.Journal.Basic

namespace EventJournal

namespace Journal

/-! ### One stream -/

/-- The entries of a stream in order, hidden or not. -/
def entriesOf (j : Journal) (r : StreamRecord) : List Entry :=
  r.positions.filterMap fun p => j.log[p]?

/-- The entries that a reader of the stream is shown. -/
def visible (j : Journal) (r : StreamRecord) : List Entry :=
  (j.entriesOf r).filter fun e => r.status = .active && r.truncateBefore ≤ e.streamVersion

/-- The visible history of a stream. -/
def history (j : Journal) (id : StreamId) : StreamHistory :=
  match j.streams.get? id with
  | none => .empty id
  | some r =>
    { stream := id
      streamVersion := r.version
      entries := j.visible r
      snapshot := if r.status = .active then r.snapshot else none
      isTombstoned := r.status = .tombstoned
      isSoftDeleted := r.status = .softDeleted }

/-- The bookkeeping of a stream. -/
def summaryOf (j : Journal) (id : StreamId) : StreamSummary :=
  match j.streams.get? id with
  | none => .missing id
  | some r =>
    { stream := id
      isKnown := true
      currentVersion := r.version
      status := r.status
      truncateBefore := r.truncateBefore
      visibleEntryCount := (j.visible r).length }

/-- The bookkeeping of a stream, for a caller who has to name one. -/
def summary (j : Journal) (id : StreamId) : Except JournalError StreamSummary :=
  if id.isEmpty then .error emptyStreamId else .ok (j.summaryOf id)

/-- Reads several streams; those without a version were never written. -/
def histories (j : Journal) (ids : List StreamId) : StreamHistories where
  found := (ids.map j.history).filter fun s => s.streamVersion ≠ 0
  missing := ids.filter fun id => (j.history id).streamVersion = 0

/-! ### The whole journal -/

/-- At most `most` entries from a position on. -/
def readFrom (j : Journal) (position most : Nat) : List Entry := (j.log.drop position).take most

theorem length_readFrom (j : Journal) (position most : Nat) :
    (j.readFrom position most).length = min most (j.length - position) := by
  rw [readFrom, List.length_take, List.length_drop]
  rfl

end Journal

/-! ### Named readers -/

/-- The cursors of the readers that were asked for so far. -/
structure Readers where
  cursors : Table String Nat
deriving DecidableEq, Repr

namespace Readers

/-- No reader was asked for yet. -/
def empty : Readers := ⟨∅⟩

instance : Inhabited Readers := ⟨empty⟩

/-- A reader has to have a name. -/
def checkName (name : String) : Except JournalError Unit :=
  if name = "" then .error (.invalidArgument "reader name must not be empty") else .ok ()

/-- The cursor of a reader; it starts at the first entry. -/
def position (r : Readers) (name : String) : Nat := r.cursors.getD name 0

def seek (r : Readers) (name : String) (position : Nat) : Readers :=
  ⟨r.cursors.insert name position⟩

def rewind (r : Readers) (name : String) : Readers := r.seek name 0

/-- The next entries for a reader, at most `most`, and the cursors behind them. -/
def readNext (r : Readers) (j : Journal) (name : String) (most : Nat) : List Entry × Readers :=
  let entries := j.readFrom (r.position name) most
  (entries, r.seek name (r.position name + entries.length))

@[grind =] theorem position_seek (r : Readers) (name name' : String) (p : Nat) :
    (r.seek name p).position name' = if name' = name then p else r.position name' := by
  unfold position seek Table.getD
  rw [Table.get?_insert]
  split <;> rfl

end Readers

end EventJournal
