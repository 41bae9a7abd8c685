/-
EventJournal/Account/Balance.lean

Balances of accounts, kept from the entries of their streams: an account is opened, money
is paid in and taken out.  Nobody may take out more than there is.  The balance of a
stream is kept from its first entry on that can be read, even when that entry is refused.
-/
import EventJournal.Event.Registry
import EventJournal.Projection.Basic

namespace EventJournal

/-! ### Events -/

/-- The body of an opening. -/
structure Opening where
  owner : String
deriving DecidableEq, Repr

instance : Shape Opening where
  write o := Shape.record ["owner"] [.str o.owner]
  read j := do
    let [owner] ← Shape.columns ["owner"] j | none
    pure ⟨← Shape.required Shape.read owner⟩

/-- The body of a payment. -/
structure Payment where
  amount : Int
deriving DecidableEq, Repr

instance : Shape Payment where
  write p := Shape.record ["amount"] [.int p.amount]
  read j := do
    let [amount] ← Shape.columns ["amount"] j | none
    pure ⟨← Shape.required (Json.int? 64) amount⟩

/-- What changes a balance. -/
inductive BalanceEvent where
  | opened
  | paidIn (amount : Int)
  | takenOut (amount : Int)
deriving DecidableEq, Repr

/-- The adapters of the entries that change balances. -/
def BalanceEvent.registry : Registry BalanceEvent :=
  ((Registry.empty.registerShape "AccountOpened" 1 fun _ : Opening => opened).registerShape
    "FundsDeposited" 1 fun p : Payment => paidIn p.amount).registerShape
    "FundsWithdrawn" 1 fun p : Payment => takenOut p.amount

/-! ### Balances -/

/-- The balances of the streams that were seen. -/
abbrev Balances : Type := Table StreamId Int

namespace Balances

/-- Applies one event to the balance of a stream. -/
def applyEvent (b : Balances) (stream : StreamId) (e : BalanceEvent) :
    Except ProjectionError Unit × Balances :=
  let balance := b.getD stream 0
  match e with
  | .opened => (.ok (), b.insert stream balance)
  | .paidIn n => (.ok (), b.insert stream (balance + n))
  | .takenOut n =>
    if balance < n then
      (.error (.business ("overdraft on " ++ stream.name)), b.insert stream balance)
    else (.ok (), b.insert stream (balance - n))

/-- Applies one entry. -/
def applyEntry (b : Balances) (e : Entry) : Except ProjectionError Unit × Balances :=
  match BalanceEvent.registry.ofEntry e with
  | .error reason => (.error (.adapter reason), b)
  | .ok event => b.applyEvent e.stream event

/-- Applies entries in order, up to the first that is refused. -/
def applyEntries (b : Balances) : List Entry → Except ProjectionError Unit × Balances
  | [] => (.ok (), b)
  | e :: rest => match b.applyEntry e with
    | (.error reason, b') => (.error reason, b')
    | (.ok (), b') => applyEntries b' rest

end Balances

end EventJournal
