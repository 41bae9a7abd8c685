/-
EventJournal/Failure.lean

The coarse kinds of failure by which a supervisor decides what to do next.
-/

namespace EventJournal

/-- The kind of a failure. -/
inductive FailureKind where
  /-- Input failed validation. -/
  | validation
  /-- An expected outcome of the business: a missing stream, a deleted stream. -/
  | business
  /-- Two writers collided. -/
  | concurrency
  /-- State in memory can no longer be trusted. -/
  | corruption
  /-- A payload could not be written or read. -/
  | serialization
  /-- The storage failed. -/
  | storage
  /-- The caller used an operation wrongly. -/
  | misuse
deriving DecidableEq, Repr

end EventJournal
