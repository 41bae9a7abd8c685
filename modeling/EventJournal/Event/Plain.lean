/-
EventJournal/Event/Plain.lean

Events without a type of their own: a type name, a version and a body, or the reason why
the body cannot be written.  Every event has a plain form.  The decoders here keep the
stored form visible (`echo`) or refuse every body (`refuse`).
-/
import EventJournal.Event.Basic

namespace EventJournal

/-- An event given by its parts. -/
structure PlainEvent where
  typeName : String
  version : Nat
  body : Json
  /-- Why the body cannot be written, if it cannot. -/
  refusal : Option String := none
deriving DecidableEq, Repr

namespace PlainEvent

instance : Event PlainEvent where
  typeName := PlainEvent.typeName
  version := PlainEvent.version
  body e := match e.refusal with
    | some reason => .error reason
    | none => .ok e.body

/-- The plain form of an event. -/
def ofEvent {ε : Type} [Event ε] (e : ε) : PlainEvent :=
  match Event.body e with
  | .ok body => ⟨Event.typeName e, Event.version e, body, none⟩
  | .error reason => ⟨Event.typeName e, Event.version e, .null, some reason⟩

/-- Reads every body, and shows it beside the version in which it was stored. -/
def echo (typeName : String) (version : Nat) (body : Json) : Except AdapterError PlainEvent :=
  .ok ⟨typeName, version, .obj [("stored", Json.nat version), ("payload", body)], none⟩

/-- Reads no body. -/
def refuse (typeName : String) (version : Nat) (_ : Json) : Except AdapterError PlainEvent :=
  .error (.decode typeName version ("refused v" ++ toString version))

end PlainEvent

end EventJournal
