/-
EventJournal/Journal/Operation.lean

The operations that change a journal, as data, so that histories of operations can be
spoken about.  `perform` carries one out; `run` carries out a list of them, in order,
whether they succeed or not.  A journal is `Reachable` when a history leads to it from
the journal without entries.
-/
import EventJournal.Journal.Read

namespace EventJournal

/-- A request to change a journal. -/
inductive Operation where
  | append (request : Append)
  | tombstone (stream : StreamId)
  | softDelete (stream : StreamId)
  | truncateBefore (stream : StreamId) (version : Nat)
deriving DecidableEq, Repr

namespace Operation

/-- The stream that the operation is about. -/
def target : Operation → StreamId
  | append a => a.stream
  | tombstone id | softDelete id | truncateBefore id _ => id

/-- What an operation answers: the entries an append has committed, nothing for the others. -/
abbrev Outcome : Type := Except JournalError (Option AppendResult)

/-- Carries out an operation. -/
def perform (op : Operation) (j : Journal) : Outcome × Journal :=
  match op with
  | append a => ((j.append a).1.map some, (j.append a).2)
  | tombstone id => ((j.tombstone id).1.map fun _ => none, (j.tombstone id).2)
  | softDelete id => ((j.softDelete id).1.map fun _ => none, (j.softDelete id).2)
  | truncateBefore id v =>
    ((j.truncateBefore id v).1.map fun _ => none, (j.truncateBefore id v).2)

/-- Carries out operations one after the other. -/
def run (ops : List Operation) (j : Journal) : Journal :=
  ops.foldl (fun j op => (op.perform j).2) j

/-- The outcomes of operations carried out one after the other. -/
def outcomes : List Operation → Journal → List Outcome
  | [], _ => []
  | op :: rest, j => (op.perform j).1 :: outcomes rest (op.perform j).2

@[simp] theorem run_nil (j : Journal) : run [] j = j := rfl

@[simp] theorem run_cons (op : Operation) (ops : List Operation) (j : Journal) :
    run (op :: ops) j = run ops (op.perform j).2 := rfl

theorem run_append (ops ops' : List Operation) (j : Journal) :
    run (ops ++ ops') j = run ops' (run ops j) := List.foldl_append

end Operation

/-- Some history of operations leads from the journal without entries to `j`. -/
def Journal.Reachable (j : Journal) : Prop :=
  ∃ (stamps : Nat → Stamp) (ops : List Operation), j = Operation.run ops (.empty stamps)

end EventJournal
