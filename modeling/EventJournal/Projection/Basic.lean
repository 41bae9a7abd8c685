/-
EventJournal/Projection/Basic.lean

A projection builds a view of its own from the projectables that it is handed.  How it
reacts to one is a tree of what it does to the world around it: it confirms projectables,
it appends to the journal and goes on according to the answer, and in the end it
succeeds or fails and keeps a new state.  It has no other way to touch anything, and no
clock.

`Reaction.run` carries a reaction out on a journal and on confirmations.
-/
import EventJournal.Confirmations
import EventJournal.Event.Basic
import EventJournal.Journal.Basic

namespace EventJournal

/-! ### Failures -/

/-- Why a projection could not handle a projectable, or could not be reset. -/
inductive ProjectionError where
  | validation (text : String)
  | business (text : String)
  | corruption (text : String)
  | serialization (text : String)
  | storage (text : String)
  | adapter (source : AdapterError)
  | journal (source : JournalError)
deriving DecidableEq, Repr

namespace ProjectionError

def message : ProjectionError → String
  | validation text => "validation failed: " ++ text
  | business text => "business rule rejected projectable: " ++ text
  | corruption text => "projection state corrupted: " ++ text
  | serialization text => "serialization failed: " ++ text
  | storage text => "storage failure: " ++ text
  | adapter source => source.message
  | journal source => source.message

def kind : ProjectionError → FailureKind
  | validation _ => .validation
  | business _ => .business
  | corruption _ => .corruption
  | serialization _ | adapter _ => .serialization
  | storage _ => .storage
  | journal source => source.kind

end ProjectionError

/-! ### Reactions -/

/-- What a projection does on being handed a projectable. -/
inductive Reaction (σ : Type) where
  | finish (outcome : Except ProjectionError Unit) (state : σ)
  | confirm (projectable : Projectable) (next : Reaction σ)
  | append (request : Append) (next : Except JournalError AppendResult → Reaction σ)

/-- What a reaction has done. -/
structure Reaction.Result (σ : Type) where
  outcome : Except ProjectionError Unit
  state : σ
  journal : Journal
  confirmations : Confirmations
  /-- The identities that were confirmed, in order. -/
  confirmed : List ProjectableId

namespace Reaction

variable {σ : Type}

/-- Carries out a reaction. -/
def run : Reaction σ → Journal → Confirmations → Result σ
  | finish outcome state, j, c => ⟨outcome, state, j, c, []⟩
  | confirm p next, j, c =>
    let r := next.run j (c.confirm p)
    { r with confirmed := p.id :: r.confirmed }
  | append request next, j, c =>
    let (answer, j') := j.append request
    (next answer).run j' c

@[simp] theorem run_finish (outcome : Except ProjectionError Unit) (state : σ) (j : Journal)
    (c : Confirmations) : (finish outcome state).run j c = ⟨outcome, state, j, c, []⟩ := rfl

/-- Succeeds and keeps a state. -/
def done (state : σ) : Reaction σ := finish (.ok ()) state

/-- Fails and keeps a state. -/
def fail (e : ProjectionError) (state : σ) : Reaction σ := finish (.error e) state

/-- Confirms projectables, in order. -/
def confirmAll (next : Reaction σ) (ps : List Projectable) : Reaction σ :=
  ps.foldr confirm next

end Reaction

/-! ### Projections -/

/-- A projection with states in `σ`. -/
structure Projection (σ : Type) where
  /-- The name in messages, by which a supervisor finds the projection again. -/
  name : String
  initial : σ
  project : Projectable → σ → Reaction σ
  /-- Takes the view back to its beginning. -/
  reset : σ → Except ProjectionError Unit × σ

/-- The projection that confirms all it is handed and keeps nothing. -/
def Projection.confirming {σ : Type} (name : String) (initial : σ) : Projection σ where
  name := name
  initial := initial
  project p s := .confirm p (.done s)
  reset s := (.ok (), s)

end EventJournal
