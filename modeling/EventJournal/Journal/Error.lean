/-
EventJournal/Journal/Error.lean

The outcomes of a journal operation that did not succeed.  Most are expected and
acted upon by the caller; only `invalidArgument` is a mistake of the caller, and
only `storage` a failure of what keeps the entries.
-/
import EventJournal.Failure
import EventJournal.Stream.ExpectedVersion
import EventJournal.Stream.Id

namespace EventJournal

/-- Why a journal operation did not succeed. -/
inductive JournalError where
  /-- The stream was never written. -/
  | notFound (stream : StreamId)
  /-- The stream's current version was `actual`, which is not what the writer expected. -/
  | concurrencyViolation (stream : StreamId) (expected : ExpectedVersion) (actual : Nat)
  /-- An append met a tombstone. -/
  | streamDeleted (stream : StreamId)
  /-- A tombstone met a tombstone. -/
  | alreadyTombstoned (stream : StreamId)
  /-- A soft delete met a deleted stream. -/
  | alreadyDeleted (stream : StreamId)
  /-- A truncation met a tombstone. -/
  | tombstoned (stream : StreamId)
  /-- Some of the streams asked for were never written. -/
  | notAllFound (missing : List StreamId)
  | invalidArgument (text : String)
  | storage (text : String)
deriving DecidableEq, Repr

namespace JournalError

def message : JournalError → String
  | notFound s => "stream not found: " ++ s.name
  | concurrencyViolation s expected actual =>
    "concurrency violation on stream " ++ s.name ++ ": expected " ++ expected.text
      ++ ", current version " ++ toString actual
  | streamDeleted s => "stream deleted: " ++ s.name
  | alreadyTombstoned s => "stream already tombstoned: " ++ s.name
  | alreadyDeleted s => "stream already deleted: " ++ s.name
  | tombstoned s => "stream is tombstoned: " ++ s.name
  | notAllFound missing =>
    "not all streams found (missing: " ++ ", ".intercalate (missing.map StreamId.name) ++ ")"
  | invalidArgument text => "invalid argument: " ++ text
  | storage text => "storage failure: " ++ text

def kind : JournalError → FailureKind
  | concurrencyViolation .. => .concurrency
  | invalidArgument _ => .misuse
  | storage _ => .storage
  | _ => .business

/-- The same operation may succeed later. -/
def isRetryable : JournalError → Bool
  | concurrencyViolation .. | storage _ => true
  | _ => false

/-- What the caller wanted is already the case. -/
def isIdempotent : JournalError → Bool
  | alreadyTombstoned _ | alreadyDeleted _ | tombstoned _ => true
  | _ => false

end JournalError

/-- Reads the id of a stream from a text, which must not be empty. -/
def StreamId.parse (s : String) : Except JournalError StreamId :=
  if s.isEmpty then .error (.invalidArgument "StreamId: must not be empty") else .ok ⟨s⟩

end EventJournal
