/-
EventJournal/Projection/Scripted.lean

Projections that follow a script: one action after the other, a default when the script
has run out, and fixed actions for some reasons.  They remember what they were handed and
how often they were reset, and may keep balances of accounts on the way.  They stand in
for real projections wherever the delivery is what matters.
-/
import EventJournal.Account.Balance

namespace EventJournal

/-- One thing to do with a projectable. -/
inductive Action where
  | confirm
  | silent
  /-- Confirms everything handed out so far. -/
  | confirmSeen
  | fail (e : ProjectionError)
  | confirmThenFail (e : ProjectionError)
  /-- Appends to the journal, and confirms if that succeeds. -/
  | append (request : Append)
deriving DecidableEq, Repr

/-- A script for a projection. -/
structure Script where
  name : String
  actions : List Action := []
  default : Action := .confirm
  /-- What is done for a first reason, before the actions are looked at. -/
  forReason : List (String × Action) := []
  /-- The outcomes of the first resets; later ones succeed. -/
  resets : List (Option ProjectionError) := []
  keepsBalances : Bool := false

namespace Script

/-- How far a script has been followed. -/
structure State where
  /-- The projectables handed out so far, the latest first. -/
  seen : List Projectable
  /-- The actions that were not taken yet. -/
  actions : List Action
  resetCount : Nat
  /-- The outcomes of resets to come. -/
  resets : List (Option ProjectionError)
  balances : Balances
deriving Inhabited

/-- The state in which nothing has happened. -/
def start (s : Script) : State := ⟨[], s.actions, 0, s.resets, ∅⟩

/-- The action for a projectable, and the state in which it is used up. -/
def nextAction (s : Script) (p : Projectable) (st : State) : Action × State :=
  match p.becauseOf.head?.bind fun reason => s.forReason.lookup reason with
  | some action => (action, st)
  | none => match st.actions with
    | action :: rest => (action, { st with actions := rest })
    | [] => (s.default, st)

/-- Takes an action. -/
def act (p : Projectable) (st : State) : Action → Reaction State
  | .confirm => .confirm p (.done st)
  | .silent => .done st
  | .confirmSeen => .confirmAll (.done st) st.seen.reverse
  | .fail e => .fail e st
  | .confirmThenFail e => .confirm p (.fail e st)
  | .append request => .append request fun
    | .error e => .fail (.journal e) st
    | .ok _ => .confirm p (.done st)

/-- Follows the script by one projectable. -/
def follow (s : Script) (p : Projectable) (st : State) : Reaction State :=
  let st := { st with seen := p :: st.seen }
  let (outcome, balances) :=
    if s.keepsBalances then st.balances.applyEntries p.entries else (.ok (), st.balances)
  let st := { st with balances }
  match outcome with
  | .error e => .fail e st
  | .ok () => act p (s.nextAction p st).2 (s.nextAction p st).1

/-- Forgets the balances; the outcome is the next one that is laid down. -/
def reset (st : State) : Except ProjectionError Unit × State :=
  let st := { st with resetCount := st.resetCount + 1, balances := ∅ }
  match st.resets with
  | [] => (.ok (), st)
  | none :: rest => (.ok (), { st with resets := rest })
  | some e :: rest => (.error e, { st with resets := rest })

/-- The projection that follows the script. -/
def projection (s : Script) : Projection State := ⟨s.name, s.start, s.follow, reset⟩

end Script

end EventJournal
