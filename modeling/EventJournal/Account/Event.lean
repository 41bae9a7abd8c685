/-
EventJournal/Account/Event.lean

Events of a bank account, as an example of a schema that has changed.  Deposits had no
currency in version 1 of their schema; all of them were in euros.  The decoder brings
such a deposit up to date, so that the rest of an application knows one form only.
-/
import EventJournal.Event.Registry

namespace EventJournal

/-! ### Bodies -/

/-- Reads an amount of money. -/
def amountOf? (j : Json) : Option Int64 := (j.int? 64).map Int64.ofInt

/-- Money was paid in. -/
structure FundsDeposited where
  amount : Int64
  currency : String
deriving DecidableEq, Repr

namespace FundsDeposited

def fieldNames : List String := ["amount", "currency"]

def toJson (d : FundsDeposited) : Json :=
  Shape.record fieldNames [.int d.amount.toInt, .str d.currency]

def ofJson? (j : Json) : Option FundsDeposited := do
  let [amount, currency] ← Shape.columns fieldNames j | none
  pure ⟨← Shape.required amountOf? amount, ← Shape.required Shape.read currency⟩

instance : Shape FundsDeposited := ⟨toJson, ofJson?⟩

end FundsDeposited

/-- The account was closed. -/
structure AccountClosed where
  reason : String
deriving DecidableEq, Repr

namespace AccountClosed

def fieldNames : List String := ["reason"]

def toJson (c : AccountClosed) : Json := Shape.record fieldNames [.str c.reason]

def ofJson? (j : Json) : Option AccountClosed := do
  let [reason] ← Shape.columns fieldNames j | none
  pure ⟨← Shape.required Shape.read reason⟩

instance : Shape AccountClosed := ⟨toJson, ofJson?⟩

end AccountClosed

/-! ### Events -/

/-- What happens to an account. -/
inductive AccountEvent where
  | fundsDeposited (deposit : FundsDeposited)
  | accountClosed (closing : AccountClosed)
deriving DecidableEq, Repr

namespace AccountEvent

def depositType : String := "FundsDeposited"

def closingType : String := "AccountClosed"

instance : Event AccountEvent where
  typeName
    | fundsDeposited _ => depositType
    | accountClosed _ => closingType
  version
    | fundsDeposited _ => 2
    | accountClosed _ => 1
  body
    | fundsDeposited d => .ok d.toJson
    | accountClosed c => .ok c.toJson

/-- The currency of the deposits that do not name one. -/
def firstCurrency : String := "EUR"

/-- The amount of a deposit stored in version 1. -/
def amount? (body : Json) : Option Int64 := (body.field? "amount").bind amountOf?

/-- Brings the body of a deposit to the form of version 2. -/
def upcastDeposit (version : Nat) (body : Json) : Except AdapterError Json :=
  if version = 1 then
    match amount? body with
    | none => .error (.decode depositType 1 "missing amount")
    | some n => .ok (FundsDeposited.toJson ⟨n, firstCurrency⟩)
  else .ok body

/-- Reads a deposit stored in any version. -/
def decodeDeposit (version : Nat) (body : Json) : Except AdapterError AccountEvent :=
  (upcastDeposit version body).bind fun b =>
    match FundsDeposited.ofJson? b with
    | none => .error (.decode depositType version Registry.misshapen)
    | some d => .ok (fundsDeposited d)

/-- The adapters of both types. -/
def registry : Registry AccountEvent :=
  (Registry.empty.register depositType 2 decodeDeposit).registerShape closingType 1 accountClosed

end AccountEvent

end EventJournal
