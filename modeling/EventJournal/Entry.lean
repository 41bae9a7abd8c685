/-
EventJournal/Entry.lean

Entries are the facts a journal holds.  A writer supplies a `NewEntry`: what the fact
is.  Committing it adds where it stands, in its stream and in the whole journal, the
context of the append, and a stamp: an identity and a time that come from outside.
A `Snapshot` is the state of a stream that a writer stores together with an append.

An entry is never changed or removed; what a reader of its stream may see is decided
elsewhere.
-/
import EventJournal.Metadata
import EventJournal.Stream.Id
import EventJournal.Timestamp
import EventJournal.Uuid

namespace EventJournal

/-! ### Facts to be committed -/

/-- A fact that has no position yet. -/
structure NewEntry where
  entryType : String
  typeVersion : Nat
  payload : Json
deriving DecidableEq, Repr

namespace NewEntry

/-- What the journal asks of an entry before it commits it. -/
def WellTyped (e : NewEntry) : Prop := e.entryType ≠ "" ∧ 1 ≤ e.typeVersion

instance (e : NewEntry) : Decidable e.WellTyped :=
  inferInstanceAs (Decidable (e.entryType ≠ "" ∧ 1 ≤ e.typeVersion))

def fieldNames : List String := ["entry_type", "type_version", "payload"]

def toJson (e : NewEntry) : Json :=
  Shape.record fieldNames [.str e.entryType, Json.nat e.typeVersion, e.payload]

def ofJson? (j : Json) : Option NewEntry := do
  let [entryType, typeVersion, payload] ← Shape.columns fieldNames j | none
  pure ⟨← Shape.required Shape.read entryType, ← Shape.required (Json.nat? 32) typeVersion,
    ← Shape.required Shape.read payload⟩

instance : Shape NewEntry := ⟨toJson, ofJson?⟩

end NewEntry

/-- The state of a stream at some version, as its writer understands it. -/
structure Snapshot where
  version : Nat
  payload : Json
deriving DecidableEq, Repr

namespace Snapshot

def fieldNames : List String := ["version", "payload"]

def toJson (s : Snapshot) : Json := Shape.record fieldNames [Json.nat s.version, s.payload]

def ofJson? (j : Json) : Option Snapshot := do
  let [version, payload] ← Shape.columns fieldNames j | none
  pure ⟨← Shape.required (Json.nat? 64) version, ← Shape.required Shape.read payload⟩

instance : Shape Snapshot := ⟨toJson, ofJson?⟩

end Snapshot

/-! ### Committed facts -/

/-- The identity and the time of a committed entry. -/
structure Stamp where
  entryId : Uuid
  committedAt : Timestamp
deriving DecidableEq, Repr, Inhabited

/-- A committed fact. -/
structure Entry where
  stamp : Stamp
  stream : StreamId
  entryType : String
  typeVersion : Nat
  payload : Json
  /-- The place within the stream, counted from one. -/
  streamVersion : Nat
  /-- The place within the whole journal, counted from zero. -/
  globalPosition : Nat
  metadata : Metadata
deriving DecidableEq, Repr

namespace Entry

/-- The fact as its writer supplied it. -/
def toNew (e : Entry) : NewEntry := ⟨e.entryType, e.typeVersion, e.payload⟩

/-- The entry without its stamp: all that follows from the operations on the journal. -/
def unstamped (e : Entry) : Entry := { e with stamp := default }

/-- The entry without its stamp and its place in the whole journal: what one stream shows of it. -/
def unplaced (e : Entry) : Entry := { e.unstamped with globalPosition := 0 }

def fieldNames : List String :=
  ["entry_id", "stream_id", "entry_type", "type_version", "payload", "stream_version",
   "global_position", "metadata", "committed_at"]

def toJson (e : Entry) : Json :=
  Shape.record fieldNames
    [Shape.write e.stamp.entryId, Shape.write e.stream, .str e.entryType, Json.nat e.typeVersion,
     e.payload, Json.nat e.streamVersion, Json.nat e.globalPosition, e.metadata.toJson,
     Shape.write e.stamp.committedAt]

def ofJson? (j : Json) : Option Entry := do
  let [entryId, stream, entryType, typeVersion, payload, streamVersion, globalPosition, metadata,
    committedAt] ← Shape.columns fieldNames j | none
  pure
    { stamp := ⟨← Shape.required Shape.read entryId, ← Shape.required Shape.read committedAt⟩
      stream := ← Shape.required Shape.read stream
      entryType := ← Shape.required Shape.read entryType
      typeVersion := ← Shape.required (Json.nat? 32) typeVersion
      payload := ← Shape.required Shape.read payload
      streamVersion := ← Shape.required (Json.nat? 64) streamVersion
      globalPosition := ← Shape.required (Json.nat? 64) globalPosition
      metadata := ← Shape.required Shape.read metadata }

instance : Shape Entry := ⟨toJson, ofJson?⟩

end Entry

end EventJournal
