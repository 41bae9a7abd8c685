/-
EventJournal/Event/Basic.lean

Events are values of the types that an application works with; entries are what a
journal holds of them.  An event has the name of its type, the version of its schema and
a body, which it may fail to write.
-/
import EventJournal.Entry
import EventJournal.Text.Place

namespace EventJournal

/-- Why an event and its stored form cannot be turned into each other. -/
inductive AdapterError where
  | unknownType (entryType : String)
  /-- The entry has a newer schema than the one that is known. -/
  | futureVersion (entryType : String) (stored current : Nat)
  | decode (entryType : String) (version : Nat) (reason : String)
  | encode (entryType : String) (reason : String)
deriving DecidableEq, Repr

def AdapterError.message : AdapterError → String
  | unknownType t => "no adapter registered for entry type '" ++ t ++ "'"
  | futureVersion t stored current =>
    "entry type '" ++ t ++ "' stored at version " ++ toString stored
      ++ ", newer than current version " ++ toString current
  | decode t version reason =>
    "failed to decode '" ++ t ++ "' v" ++ toString version ++ ": " ++ reason
  | encode t reason => "failed to encode '" ++ t ++ "': " ++ reason

/-- Values that can be stored as entries. -/
class Event (ε : Type) where
  typeName : ε → String
  /-- The version of the schema in which the body is written. -/
  version : ε → Nat
  /-- The body, or why it cannot be written. -/
  body : ε → Except String Json

/-- The entry for an event, in the event's own version.  A reason against it is told with its
place in plain numbers. -/
def NewEntry.ofEvent {ε : Type} [Event ε] (e : ε) : Except AdapterError NewEntry :=
  match Event.body e with
  | .error reason => .error (.encode (Event.typeName e) (Text.told reason))
  | .ok body => .ok ⟨Event.typeName e, Event.version e, body⟩

end EventJournal
