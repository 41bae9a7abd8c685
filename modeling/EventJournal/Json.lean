/-
EventJournal/Json.lean

JSON values as the library carries them.  Payloads, metadata and states are JSON
that nobody here looks into; what the library writes itself goes through the same type.

Numbers come in two kinds: whole numbers, of any size, and decimal fractions.  A
reader of a bounded whole number (`nat?`, `int?`) takes only the first kind and
checks the bound, so a fraction is refused even where its value is whole.

An object is a list of fields, looked up by name.
-/

namespace EventJournal

/-- A JSON value. -/
inductive Json where
  | null
  | bool (b : Bool)
  | int (n : Int)
  /-- The number `mantissa / 10 ^ places`. -/
  | decimal (mantissa : Int) (places : Nat)
  | str (s : String)
  | arr (items : List Json)
  | obj (fields : List (String × Json))
deriving Inhabited, Repr

namespace Json

/-! ### Equality -/

mutual

/-- Structural equality. -/
def same : Json → Json → Bool
  | .null, .null => true
  | .bool a, .bool b => a == b
  | .int m, .int n => m == n
  | .decimal m p, .decimal n q => m == n && p == q
  | .str s, .str t => s == t
  | .arr l, .arr r => sameItems l r
  | .obj l, .obj r => sameFields l r
  | _, _ => false

def sameItems : List Json → List Json → Bool
  | [], [] => true
  | a :: l, b :: r => same a b && sameItems l r
  | _, _ => false

def sameFields : List (String × Json) → List (String × Json) → Bool
  | [], [] => true
  | (k, a) :: l, (k', b) :: r => k == k' && same a b && sameFields l r
  | _, _ => false

end

mutual

theorem eq_of_same : ∀ {a b : Json}, same a b = true → a = b
  | .null, .null, _ => rfl
  | .bool a, .bool b, h => by simpa [same] using h
  | .int m, .int n, h => by simpa [same] using h
  | .decimal m p, .decimal n q, h => by simpa [same] using h
  | .str s, .str t, h => by simpa [same] using h
  | .arr l, .arr r, h => by
    rw [eq_of_sameItems (by simpa [same] using h : sameItems l r = true)]
  | .obj l, .obj r, h => by
    rw [eq_of_sameFields (by simpa [same] using h : sameFields l r = true)]

theorem eq_of_sameItems : ∀ {l r : List Json}, sameItems l r = true → l = r
  | [], [], _ => rfl
  | a :: l, b :: r, h => by
    simp only [sameItems, Bool.and_eq_true] at h
    rw [eq_of_same h.1, eq_of_sameItems h.2]

theorem eq_of_sameFields :
    ∀ {l r : List (String × Json)}, sameFields l r = true → l = r
  | [], [], _ => rfl
  | (k, a) :: l, (k', b) :: r, h => by
    simp only [sameFields, Bool.and_eq_true, beq_iff_eq] at h
    rw [h.1.1, eq_of_same h.1.2, eq_of_sameFields h.2]

end

mutual

theorem same_self : ∀ a : Json, same a a = true
  | .null => rfl
  | .bool _ | .int _ | .str _ | .decimal _ _ => by simp [same]
  | .arr l => by simp [same, sameItems_self l]
  | .obj l => by simp [same, sameFields_self l]

theorem sameItems_self : ∀ l : List Json, sameItems l l = true
  | [] => rfl
  | a :: l => by simp [sameItems, same_self a, sameItems_self l]

theorem sameFields_self : ∀ l : List (String × Json), sameFields l l = true
  | [] => rfl
  | (k, a) :: l => by simp [sameFields, same_self a, sameFields_self l]

end

instance : DecidableEq Json := fun a b =>
  decidable_of_iff (same a b = true) ⟨eq_of_same, fun h => h ▸ same_self a⟩

/-! ### Bounded readers -/

/-- Reads a whole number below `2 ^ bits`. -/
def nat? (bits : Nat) : Json → Option Nat
  | .int (.ofNat n) => if n < Nat.pow 2 bits then some n else none
  | _ => none

/-- Reads a whole number of `bits` bits, one of them the sign. -/
def int? (bits : Nat) : Json → Option Int
  | .int n =>
    let half : Int := Nat.pow 2 (bits - 1)
    if -half ≤ n ∧ n < half then some n else none
  | _ => none

def str? : Json → Option String
  | .str s => some s
  | _ => none

def bool? : Json → Option Bool
  | .bool b => some b
  | _ => none

def isNull : Json → Bool
  | .null => true
  | _ => false

/-- Writes a natural number. -/
def nat (n : Nat) : Json := .int n

theorem nat?_nat {bits n : Nat} (h : n < Nat.pow 2 bits) : nat? bits (nat n) = some n := by
  change (if n < Nat.pow 2 bits then some n else none) = some n
  rw [if_pos h]

theorem nat?_eq_some {bits n : Nat} {j : Json} (h : nat? bits j = some n) :
    j = nat n ∧ n < Nat.pow 2 bits := by
  unfold nat? at h
  split at h
  · split at h
    · rename_i hlt
      cases h
      exact ⟨rfl, hlt⟩
    · cases h
  · cases h

/-- The field called `name`, if `j` is an object that has one. -/
def field? (name : String) : Json → Option Json
  | .obj fields => List.lookup name fields
  | _ => none

end Json

end EventJournal
