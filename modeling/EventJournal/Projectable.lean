/-
EventJournal/Projectable.lean

The unit of work that is handed to projections: entries of one stream, or a state that
somebody has already built, together with the reasons for which it is handed out.  The
reasons decide who gets it; the identity decides whether it was handled.

A single entry has its type as its only reason, and its type, stream and version as its
identity.  A batch has the distinct types of its entries as reasons, in order of first
occurrence (`mem_reasonsOf`).
-/
import EventJournal.Entry

namespace EventJournal

/-! ### Identity -/

/-- The identity under which handling a projectable is recorded. -/
structure ProjectableId where
  projectableType : String
  dataId : String
  dataVersion : Nat
deriving DecidableEq, Repr, Inhabited

namespace ProjectableId

def text (id : ProjectableId) : String :=
  id.projectableType ++ ":" ++ id.dataId ++ ":" ++ toString id.dataVersion

/-- Identities are ordered by type, then by data, then by version. -/
protected def compare (a b : ProjectableId) : Ordering :=
  (Ord.compare a.projectableType b.projectableType).then
    ((Ord.compare a.dataId b.dataId).then (Ord.compare a.dataVersion b.dataVersion))

instance : Ord ProjectableId := ⟨ProjectableId.compare⟩

def fieldNames : List String := ["projectable_type", "data_id", "data_version"]

def toJson (id : ProjectableId) : Json :=
  Shape.record fieldNames
    [.str id.projectableType, .str id.dataId, Json.nat id.dataVersion]

def ofJson? (j : Json) : Option ProjectableId := do
  let [projectableType, dataId, dataVersion] ← Shape.columns fieldNames j | none
  pure ⟨← Shape.required Shape.read projectableType, ← Shape.required Shape.read dataId,
    ← Shape.required (Json.nat? 64) dataVersion⟩

instance : Shape ProjectableId := ⟨toJson, ofJson?⟩

end ProjectableId

/-! ### Reasons -/

/-- The distinct types of entries, in order of first occurrence. -/
def reasonsOf (entries : List Entry) : List String := (entries.map Entry.entryType).eraseDups

theorem mem_reasonsOf {reason : String} {entries : List Entry} :
    reason ∈ reasonsOf entries ↔ ∃ e ∈ entries, e.entryType = reason := by
  rw [reasonsOf, List.mem_eraseDups, List.mem_map]

/-! ### Units of work -/

/-- What is handed to projections. -/
structure Projectable where
  id : ProjectableId
  entries : List Entry
  state : Option Json
  becauseOf : List String
deriving DecidableEq, Repr

namespace Projectable

/-- A single committed entry. -/
def ofEntry (e : Entry) : Projectable where
  id := ⟨e.entryType, e.stream.name, e.streamVersion⟩
  entries := [e]
  state := none
  becauseOf := [e.entryType]

/-- Several entries of one stream, unless there are none; their identity is taken from
the stream of the first and the version of the last. -/
def ofEntries? (entries : List Entry) : Option Projectable :=
  match entries.head?, entries.getLast? with
  | some first, some last => some
    { id := ⟨"entries", first.stream.name, last.streamVersion⟩
      entries := entries
      state := none
      becauseOf := reasonsOf entries }
  | _, _ => none

/-- A state that is already built. -/
def ofState (id : ProjectableId) (state : Json) (becauseOf : List String) : Projectable :=
  ⟨id, [], some state, becauseOf⟩

/-- The place of the first entry in the whole journal. -/
def globalPosition (p : Projectable) : Option Nat := p.entries.head?.map Entry.globalPosition

@[simp] theorem globalPosition_ofEntry (e : Entry) :
    (ofEntry e).globalPosition = some e.globalPosition := rfl

def fieldNames : List String := ["id", "entries", "state", "because_of"]

def toJson (p : Projectable) : Json :=
  Shape.record fieldNames
    [p.id.toJson, .arr (p.entries.map Entry.toJson), p.state.getD .null,
     .arr (p.becauseOf.map .str)]

def ofJson? (j : Json) : Option Projectable := do
  let [id, entries, state, becauseOf] ← Shape.columns fieldNames j | none
  pure
    { id := ← Shape.required Shape.read id
      entries := ← Shape.required (Shape.list? Shape.read) entries
      state := ← Shape.optional Shape.read state
      becauseOf := ← Shape.required (Shape.list? Shape.read) becauseOf }

instance : Shape Projectable := ⟨toJson, ofJson?⟩

end Projectable

end EventJournal
