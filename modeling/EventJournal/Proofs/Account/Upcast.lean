/-
EventJournal/Proofs/Account/Upcast.lean

Deposits of all versions are one event, and stay it when they are stored again.

A deposit of version 1 is read through its upcast form: the decoder takes the amount out of the
object, adds the currency that was meant, and reads on as in version 2.  Whether it can be read
is settled by the first step alone (`amount?_eq_some_iff`), because an upcast form always has
the shape of a deposit.  Everything else under the name that the decoder is asked about has this
shape already, as an object or as an array (`FundsDeposited.ofJson?_eq_some_iff`), and nothing
above version 2 gets as far as the decoder.

Main result: what is read from any stored form is read again from the entry that is written for
it, and a form of version 1 and its upcast form are read as the same event
(`stableUpcast_registry`).
-/
import EventJournal.Account.Event
import EventJournal.Proofs.Shape.Record
import Mathlib.Data.Option.Basic

namespace EventJournal

open Shape

/-! ### Bodies -/

/-- An amount is a whole number of 64 bits, one of them the sign. -/
theorem amountOf?_eq_some_iff {j : Json} {n : Int64} :
    amountOf? j = some n ↔ j = .int n.toInt := by
  constructor
  · intro h
    obtain ⟨m, hm, rfl⟩ := Option.map_eq_some_iff.1 h
    unfold Json.int? at hm
    split at hm
    · simp only [Option.ite_none_right_eq_some, Option.some.injEq] at hm
      obtain ⟨⟨hle, hlt⟩, rfl⟩ := hm
      -- a number in range is the number of its 64 bits
      rw [Int64.toInt_ofInt_of_le hle hlt]
    · cases hm
  · rintro rfl
    have hread : (Json.int n.toInt).int? 64 = some n.toInt := if_pos ⟨n.le_toInt, n.toInt_lt⟩
    rw [amountOf?, hread, Option.map_some, Int64.ofInt_toInt]

@[simp] theorem amountOf?_int (n : Int64) : amountOf? (.int n.toInt) = some n :=
  amountOf?_eq_some_iff.2 rfl

/-- Only a text is read as a text. -/
theorem read_str_eq_some_iff {j : Json} {s : String} :
    (Shape.read j : Option String) = some s ↔ j = .str s := by
  cases j <;> simp [Shape.read, Json.str?]

theorem AccountClosed.inverts : Inverts ofJson? toJson fun _ => True :=
  inverts_record (by decide) (fun _ => rfl) (fun _ => rfl) fun _ => trivial

namespace FundsDeposited

/-- A deposit is read back from its written form. -/
theorem inverts : Inverts ofJson? toJson fun _ => True := by
  refine inverts_record (by decide) (fun _ => rfl) ?_ fun _ => trivial
  intro d _
  simp

/-- The forms of a deposit: an object with an amount and a currency, whatever else is in it, or
an array of the two. -/
inductive IsForm (d : FundsDeposited) : Json → Prop
  | object {fields : List (String × Json)} :
      fields.lookup "amount" = some (.int d.amount.toInt) →
      fields.lookup "currency" = some (.str d.currency) → IsForm d (.obj fields)
  | array : IsForm d (.arr [.int d.amount.toInt, .str d.currency])

/-- A deposit is read from its two columns. -/
theorem ofJson?_eq_some_iff_columns {j : Json} {d : FundsDeposited} :
    ofJson? j = some d ↔
      columns fieldNames j = some [some (.int d.amount.toInt), some (.str d.currency)] := by
  constructor
  · intro h
    obtain ⟨cs, hcolumns, h⟩ := Option.bind_eq_some_iff.1 h
    split at h
    · simp only [Option.bind_eq_bind, Option.bind_eq_some_iff, Option.pure_def, Option.some.injEq,
        required, amountOf?_eq_some_iff, read_str_eq_some_iff] at h
      obtain ⟨n, ⟨_, rfl, rfl⟩, currency, ⟨_, rfl, rfl⟩, rfl⟩ := h
      exact hcolumns
    · cases h
  · intro h
    unfold ofJson?
    rw [h]
    simp

theorem ofJson?_eq_some_iff {j : Json} {d : FundsDeposited} :
    ofJson? j = some d ↔ d.IsForm j := by
  rw [ofJson?_eq_some_iff_columns]
  constructor
  · -- the columns are two fields of an object, or all items of an array
    intro h
    cases j with
    | obj fields =>
      obtain ⟨hamount, hcurrency⟩ : fields.lookup "amount" = some (.int d.amount.toInt) ∧
          fields.lookup "currency" = some (.str d.currency) := by
        simpa [columns, fieldNames] using h
      exact .object hamount hcurrency
    | arr items =>
      -- the columns of an array are its items, by position
      simp only [columns, Option.ite_none_right_eq_some, Option.some.injEq] at h
      obtain ⟨-, hitems⟩ := h
      have heq : items = [.int d.amount.toInt, .str d.currency] :=
        List.map_injective_iff.2 (Option.some_injective _) hitems
      rw [heq]
      exact .array
    | _ => cases h
  · rintro (⟨hamount, hcurrency⟩ | _)
    · simp [columns, fieldNames, hamount, hcurrency]
    · rfl

end FundsDeposited

namespace AccountEvent

/-- The amount of a deposit of version 1 is a field of an object. -/
theorem amount?_eq_some_iff {body : Json} {n : Int64} :
    amount? body = some n ↔
      ∃ fields, body = .obj fields ∧ fields.lookup "amount" = some (.int n.toInt) := by
  rw [amount?, Option.bind_eq_some_iff]
  simp only [amountOf?_eq_some_iff]
  cases body with
  | obj fields => simp [Json.field?]
  | _ => simp [Json.field?]

/-! ### Decoding -/

/-- A deposit of version 1 is read if it has an amount. -/
theorem decodeDeposit_one (body : Json) :
    decodeDeposit 1 body = match amount? body with
      | none => .error (.decode depositType 1 "missing amount")
      | some n => .ok (fundsDeposited ⟨n, firstCurrency⟩) := by
  unfold decodeDeposit upcastDeposit
  rw [if_pos rfl]
  cases amount? body with
  | none => rfl
  | some n =>
    -- the upcast form is the written form of the deposit
    simp [Except.bind, FundsDeposited.inverts.read_write trivial]

/-- The body of a deposit of any other version is not changed. -/
theorem decodeDeposit_of_ne {version : Nat} (h : version ≠ 1) (body : Json) :
    decodeDeposit version body = match FundsDeposited.ofJson? body with
      | none => .error (.decode depositType version Registry.misshapen)
      | some d => .ok (fundsDeposited d) := by
  unfold decodeDeposit upcastDeposit
  rw [if_neg h]
  rfl

theorem decode_deposit_of_le {version : Nat} (h : version ≤ 2) (body : Json) :
    registry.decode depositType version body = decodeDeposit version body :=
  if_neg (Nat.not_lt.2 h)

/-- A version above 2 is refused before the body is looked at. -/
theorem decode_deposit_of_lt {version : Nat} (h : 2 < version) (body : Json) :
    registry.decode depositType version body = .error (.futureVersion depositType version 2) :=
  if_pos h

/-- What is read from version 1 has the amount that was found there, in euros. -/
theorem decode_deposit_one_iff {body : Json} {e : AccountEvent} :
    registry.decode depositType 1 body = .ok e ↔
      ∃ n, amount? body = some n ∧ e = fundsDeposited ⟨n, firstCurrency⟩ := by
  rw [decode_deposit_of_le (by decide), decodeDeposit_one]
  cases amount? body with
  | none => simp
  | some n => simp [eq_comm]

/-- From other versions only forms of deposits are read, and not from versions above 2. -/
theorem decode_deposit_iff {version : Nat} (h : version ≠ 1) {body : Json} {e : AccountEvent} :
    registry.decode depositType version body = .ok e ↔
      version ≤ 2 ∧ ∃ d, e = fundsDeposited d ∧ d.IsForm body := by
  simp only [← FundsDeposited.ofJson?_eq_some_iff]
  by_cases hversion : version ≤ 2
  · rw [decode_deposit_of_le hversion, decodeDeposit_of_ne h]
    cases FundsDeposited.ofJson? body with
    | none => simp
    | some d => simp [hversion, eq_comm]
  · rw [decode_deposit_of_lt (Nat.not_le.1 hversion)]
    simp [hversion]

/-- Only deposits are stored under their name. -/
theorem exists_of_decode_deposit {version : Nat} {body : Json} {e : AccountEvent}
    (h : registry.decode depositType version body = .ok e) : ∃ d, e = fundsDeposited d := by
  by_cases hversion : version = 1
  · subst hversion
    obtain ⟨n, -, rfl⟩ := decode_deposit_one_iff.1 h
    exact ⟨_, rfl⟩
  · obtain ⟨-, d, rfl, -⟩ := (decode_deposit_iff hversion).1 h
    exact ⟨d, rfl⟩

/-! ### Encoding -/

/-- Deposits are written in version 2. -/
theorem toEntry_fundsDeposited (d : FundsDeposited) :
    registry.toEntry (fundsDeposited d) = .ok ⟨depositType, 2, d.toJson⟩ := rfl

theorem toEntry_accountClosed (c : AccountClosed) :
    registry.toEntry (accountClosed c) = .ok ⟨closingType, 1, c.toJson⟩ := rfl

/-- What is written for a deposit is read as this deposit. -/
theorem decode_toJson_deposit (d : FundsDeposited) :
    registry.decode depositType 2 d.toJson = .ok (fundsDeposited d) := by
  rw [decode_deposit_of_le (Nat.le_refl 2), decodeDeposit_of_ne (by decide),
    FundsDeposited.inverts.read_write trivial]

theorem decode_toJson_closing (c : AccountClosed) :
    registry.decode closingType 1 c.toJson = .ok (accountClosed c) := by
  have hread : (Shape.read c.toJson : Option AccountClosed) = some c :=
    AccountClosed.inverts.read_write trivial
  unfold registry Registry.registerShape
  rw [Registry.decode_register, if_pos rfl, if_neg (by decide), hread]

/-- The entry that is written for an event is read as this event. -/
def ReadsAgain (e : AccountEvent) : Prop :=
  ∃ n, registry.toEntry e = .ok n ∧
    registry.decode n.entryType n.typeVersion n.payload = .ok e

/-- Deposits of all versions are one event, which is read again once it was read. -/
structure StableUpcast : Prop where
  /-- Every event is read again. -/
  encoded : ∀ e, ReadsAgain e
  /-- What was stored in any version is a deposit, which is written in version 2 and read
  again. -/
  reencoded : ∀ version body e, registry.decode depositType version body = .ok e →
    ∃ d, e = fundsDeposited d ∧ registry.toEntry e = .ok ⟨depositType, 2, d.toJson⟩ ∧
      registry.decode depositType 2 d.toJson = .ok e
  /-- Of version 1, objects with an amount are read, whatever else is in them, and nothing
  else. -/
  first_iff : ∀ body, (∃ e, registry.decode depositType 1 body = .ok e) ↔
    ∃ fields n, body = .obj fields ∧ fields.lookup "amount" = some (.int n) ∧
      Int64.minValue.toInt ≤ n ∧ n ≤ Int64.maxValue.toInt
  /-- They have this amount, in euros. -/
  first : ∀ body e, registry.decode depositType 1 body = .ok e →
    ∃ d, e = fundsDeposited d ∧ body.field? "amount" = some (.int d.amount.toInt) ∧
      d.currency = "EUR"
  /-- Of the other versions up to 2, the forms of deposits are read, and nothing else. -/
  other_iff : ∀ version body e, version ≠ 1 →
    (registry.decode depositType version body = .ok e ↔
      version ≤ 2 ∧ ∃ d, e = fundsDeposited d ∧ d.IsForm body)
  /-- A form of version 1 is read as its upcast form is, or refused as it is. -/
  upcast : ∀ body, registry.decode depositType 1 body
    = (upcastDeposit 1 body).bind (registry.decode depositType 2)

/-- **Upcasting is stable**: an event does not change when it is stored again, from whatever
version it was read. -/
theorem stableUpcast_registry : StableUpcast where
  encoded e := by
    cases e with
    | fundsDeposited d => exact ⟨_, toEntry_fundsDeposited d, decode_toJson_deposit d⟩
    | accountClosed c => exact ⟨_, toEntry_accountClosed c, decode_toJson_closing c⟩
  reencoded version body e h := by
    obtain ⟨d, rfl⟩ := exists_of_decode_deposit h
    exact ⟨d, rfl, toEntry_fundsDeposited d, decode_toJson_deposit d⟩
  first_iff body := by
    simp only [decode_deposit_one_iff, amount?_eq_some_iff]
    constructor
    · rintro ⟨_, n, ⟨fields, hbody, hamount⟩, -⟩
      exact ⟨fields, n.toInt, hbody, hamount, n.minValue_le_toInt, n.toInt_le⟩
    · rintro ⟨fields, n, hbody, hamount, hmin, hmax⟩
      rw [← Int64.toInt_ofInt_of_le hmin (Int.lt_of_le_sub_one hmax)] at hamount
      exact ⟨_, .ofInt n, ⟨fields, hbody, hamount⟩, rfl⟩
  first body e h := by
    obtain ⟨n, hn, rfl⟩ := decode_deposit_one_iff.1 h
    obtain ⟨fields, rfl, hamount⟩ := amount?_eq_some_iff.1 hn
    exact ⟨_, rfl, hamount, rfl⟩
  other_iff version body e h := decode_deposit_iff h
  upcast body := by
    rw [decode_deposit_of_le (by decide), decodeDeposit_one, upcastDeposit, if_pos rfl]
    cases amount? body with
    | none => rfl
    | some n => exact (decode_toJson_deposit _).symm

/-- Nobody asks a deposit of version 1 for its currency, and an array has no amount. -/
example : registry.decode depositType 1 (.obj [("currency", .str "USD"), ("amount", .int 40)])
    = .ok (fundsDeposited ⟨40, "EUR"⟩) ∧
    registry.decode depositType 2 (.arr [.int 40, .str "USD"])
      = .ok (fundsDeposited ⟨40, "USD"⟩) ∧
    registry.decode depositType 1 (.arr [.int 40, .str "USD"])
      = .error (.decode depositType 1 "missing amount") := by decide

end AccountEvent

end EventJournal
