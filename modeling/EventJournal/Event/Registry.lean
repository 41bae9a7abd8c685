/-
EventJournal/Event/Registry.lean

How stored entries are read as events.  A registry has one adapter for each type of
entries: the current version of its schema, and a decoder that is given the version in
which an entry was stored and brings older bodies up to date.  Registering a type again
replaces its adapter.

`decode` answers with what the decoder says, except that it knows neither types that
were not registered nor versions newer than the current one.  `toEntry` writes events in
the current version.
-/
import EventJournal.Event.Basic
import EventJournal.Table
import EventJournal.Text.Quoted

namespace EventJournal

/-- How entries of one type are read as events. -/
structure Adapter (ε : Type) where
  currentVersion : Nat
  /-- Reads a body that was stored in some version. -/
  decode : Nat → Json → Except AdapterError ε

/-- Adapters by the type of the entries. -/
structure Registry (ε : Type) where
  adapters : Table String (Adapter ε)

namespace Registry

variable {ε : Type}

/-- The registry that knows no type. -/
def empty : Registry ε := ⟨∅⟩

instance : Inhabited (Registry ε) := ⟨empty⟩

/-- Registers a type, or replaces its adapter. -/
def register (r : Registry ε) (entryType : String) (currentVersion : Nat)
    (decode : Nat → Json → Except AdapterError ε) : Registry ε :=
  ⟨r.adapters.insert entryType ⟨currentVersion, decode⟩⟩

/-- The reason given when a body does not have the shape of the event. -/
def misshapen : String := "body does not have the shape of the event"

/-- Registers a type whose bodies have one shape in all versions. -/
def registerShape {α : Type} [Shape α] (r : Registry ε) (entryType : String)
    (currentVersion : Nat) (wrap : α → ε) : Registry ε :=
  r.register entryType currentVersion fun version body =>
    match (Shape.read body : Option α) with
    | none => .error (.decode entryType version misshapen)
    | some a => .ok (wrap a)

def IsRegistered (r : Registry ε) (entryType : String) : Prop := entryType ∈ r.adapters

instance (r : Registry ε) (entryType : String) : Decidable (r.IsRegistered entryType) :=
  inferInstanceAs (Decidable (entryType ∈ r.adapters))

def currentVersion? (r : Registry ε) (entryType : String) : Option Nat :=
  (r.adapters.get? entryType).map Adapter.currentVersion

/-! ### Reading and writing events -/

/-- Reads a body that was stored under a type in some version. -/
def decode (r : Registry ε) (entryType : String) (version : Nat) (body : Json) :
    Except AdapterError ε :=
  match r.adapters.get? entryType with
  | none => .error (.unknownType entryType)
  | some a =>
    if a.currentVersion < version then
      .error (.futureVersion entryType version a.currentVersion)
    else a.decode version body

/-- Reads an entry. -/
def ofEntry (r : Registry ε) (e : Entry) : Except AdapterError ε :=
  r.decode e.entryType e.typeVersion e.payload

/-- The entry for an event, in the current version of its type. -/
def toEntry [Event ε] (r : Registry ε) (e : ε) : Except AdapterError NewEntry :=
  match r.currentVersion? (Event.typeName e) with
  | none => .error (.unknownType (Event.typeName e))
  | some current => (NewEntry.ofEvent e).map fun n => { n with typeVersion := current }

theorem decode_register (r : Registry ε) (entryType entryType' : String)
    (current version : Nat) (decoder : Nat → Json → Except AdapterError ε) (body : Json) :
    (r.register entryType current decoder).decode entryType' version body
      = if entryType' = entryType then
          if current < version then .error (.futureVersion entryType version current)
          else decoder version body
        else r.decode entryType' version body := by
  unfold decode register
  simp only [Table.get?_insert]
  by_cases h : entryType' = entryType
  · subst h
    simp only [if_true]
  · simp only [if_neg h]

/-! ### Description -/

/-- A description of the registry: its types and their current versions, sorted by type. -/
def text (r : Registry ε) : String :=
  let types := r.adapters.rows.map fun row => (row.1, row.2.currentVersion)
  let sorted := types.mergeSort fun a b => decide (a.1 ≤ b.1)
  Text.described "EntryAdapterRegistry"
    [("types", Text.listed (sorted.map fun t =>
      "(" ++ Text.quoted t.1 ++ ", " ++ toString t.2 ++ ")"))] false

end Registry

end EventJournal
