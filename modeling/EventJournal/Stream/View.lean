/-
EventJournal/Stream/View.lean

What a reader of one stream gets to see.  `StreamHistory` is its visible history with
the latest snapshot; `StreamSummary` is its bookkeeping.  `StreamHistories` is the answer to
a request for several streams at once.
-/
import EventJournal.Entry
import EventJournal.Journal.Error

namespace EventJournal

/-! ### Status -/

/-- The life of a stream. -/
inductive StreamStatus where
  | active
  /-- Hidden until the next append. -/
  | softDeleted
  /-- Closed for good. -/
  | tombstoned
deriving DecidableEq, Repr, Inhabited

namespace StreamStatus

def name : StreamStatus → String
  | active => "active"
  | softDeleted => "soft_deleted"
  | tombstoned => "tombstoned"

def named? : String → Option StreamStatus
  | "active" => some active
  | "soft_deleted" => some softDeleted
  | "tombstoned" => some tombstoned
  | _ => none

theorem named?_name (s : StreamStatus) : named? s.name = some s := by cases s <;> rfl

instance : Shape StreamStatus := ⟨fun s => .str s.name, Shape.tag? named?⟩

end StreamStatus

/-! ### History -/

/-- The visible history of a stream. -/
structure StreamHistory where
  stream : StreamId
  /-- The current version, also when every entry is hidden. -/
  streamVersion : Nat
  entries : List Entry
  snapshot : Option Snapshot
  isTombstoned : Bool
  isSoftDeleted : Bool
deriving DecidableEq, Repr

namespace StreamHistory

/-- The history of a stream that was never written. -/
def empty (id : StreamId) : StreamHistory := ⟨id, 0, [], none, false, false⟩

def isEmpty (s : StreamHistory) : Bool := s.entries.isEmpty

def length (s : StreamHistory) : Nat := s.entries.length

def hasSnapshot (s : StreamHistory) : Bool := s.snapshot.isSome

def fieldNames : List String :=
  ["stream_id", "stream_version", "entries", "snapshot", "is_tombstoned", "is_soft_deleted"]

def toJson (s : StreamHistory) : Json :=
  Shape.record fieldNames
    [Shape.write s.stream, Json.nat s.streamVersion, .arr (s.entries.map Entry.toJson),
     Shape.orNull Snapshot.toJson s.snapshot, .bool s.isTombstoned, .bool s.isSoftDeleted]

def ofJson? (j : Json) : Option StreamHistory := do
  let [stream, streamVersion, entries, snapshot, isTombstoned, isSoftDeleted] ←
    Shape.columns fieldNames j | none
  pure
    { stream := ← Shape.required Shape.read stream
      streamVersion := ← Shape.required (Json.nat? 64) streamVersion
      entries := ← Shape.required (Shape.list? Shape.read) entries
      snapshot := ← Shape.optional Shape.read snapshot
      isTombstoned := ← Shape.required Json.bool? isTombstoned
      isSoftDeleted := ← Shape.required Json.bool? isSoftDeleted }

instance : Shape StreamHistory := ⟨toJson, ofJson?⟩

end StreamHistory

/-! ### Bookkeeping -/

/-- The bookkeeping of a stream at one moment. -/
structure StreamSummary where
  stream : StreamId
  isKnown : Bool
  currentVersion : Nat
  status : StreamStatus
  truncateBefore : Nat
  visibleEntryCount : Nat
deriving DecidableEq, Repr

namespace StreamSummary

/-- The bookkeeping of a stream that was never written. -/
def missing (id : StreamId) : StreamSummary := ⟨id, false, 0, .active, 0, 0⟩

def isTombstoned (i : StreamSummary) : Bool := i.status = .tombstoned

def isSoftDeleted (i : StreamSummary) : Bool := i.status = .softDeleted

def fieldNames : List String :=
  ["stream_id", "exists", "current_version", "status", "truncate_before", "visible_entry_count"]

def toJson (i : StreamSummary) : Json :=
  Shape.record fieldNames
    [Shape.write i.stream, .bool i.isKnown, Json.nat i.currentVersion, Shape.write i.status,
     Json.nat i.truncateBefore, Json.nat i.visibleEntryCount]

def ofJson? (j : Json) : Option StreamSummary := do
  let [stream, isKnown, currentVersion, status, truncateBefore, visibleEntryCount] ←
    Shape.columns fieldNames j | none
  pure
    { stream := ← Shape.required Shape.read stream
      isKnown := ← Shape.required Json.bool? isKnown
      currentVersion := ← Shape.required (Json.nat? 64) currentVersion
      status := ← Shape.required Shape.read status
      truncateBefore := ← Shape.required (Json.nat? 64) truncateBefore
      visibleEntryCount := ← Shape.required (Json.nat? 64) visibleEntryCount }

instance : Shape StreamSummary := ⟨toJson, ofJson?⟩

end StreamSummary

/-! ### Several streams at once -/

/-- The streams found and those that were never written, each in the order of the request. -/
structure StreamHistories where
  found : List StreamHistory
  missing : List StreamId
deriving DecidableEq, Repr

namespace StreamHistories

def isComplete (b : StreamHistories) : Bool := b.missing.isEmpty

/-- The streams found, provided that none is missing. -/
def result (b : StreamHistories) : Except JournalError (List StreamHistory) :=
  if b.missing = [] then .ok b.found else .error (.notAllFound b.missing)

end StreamHistories

end EventJournal
