/-
EventJournal/Uuid.lean

Universally unique identifiers: thirty-two hexadecimal digits.  They are written in
groups of 8, 4, 4, 4 and 12 with hyphens between them, in lower case.  Four forms
are read, all of them in either case: the written one, the same in braces, the same
behind `urn:uuid:`, and the bare digits.
-/
import EventJournal.Shape

namespace EventJournal

/-- A universally unique identifier, by its hexadecimal digits. -/
structure Uuid where
  digits : List (Fin 16)
  length_digits : digits.length = 32
deriving DecidableEq, Repr

namespace Uuid

/-- The identifier whose digits are all zero. -/
def nil : Uuid := ⟨List.replicate 32 0, List.length_replicate⟩

instance : Inhabited Uuid := ⟨nil⟩

/-- The character of a hexadecimal digit, in lower case. -/
def hexChar (d : Fin 16) : Char :=
  if d.val < 10 then Char.ofNat (d.val + '0'.toNat) else Char.ofNat (d.val - 10 + 'a'.toNat)

/-- The value of a hexadecimal digit, in either case. -/
def hexDigit? (c : Char) : Option (Fin 16) :=
  if '0' ≤ c ∧ c ≤ '9' then some (Fin.ofNat 16 (c.toNat - '0'.toNat))
  else if 'a' ≤ c ∧ c ≤ 'f' then some (Fin.ofNat 16 (c.toNat - 'a'.toNat + 10))
  else if 'A' ≤ c ∧ c ≤ 'F' then some (Fin.ofNat 16 (c.toNat - 'A'.toNat + 10))
  else none

theorem hexDigit?_hexChar (d : Fin 16) : hexDigit? (hexChar d) = some d := by
  revert d
  decide

/-- The lengths of the groups of digits. -/
def groups : List Nat := [8, 4, 4, 4, 12]

/-- Cuts `s` into pieces of the given lengths, with a hyphen after each but the last. -/
def joinGroups : List Nat → List Char → List Char
  | [], s => s
  | [_], s => s
  | n :: rest, s => s.take n ++ '-' :: joinGroups rest (s.drop n)

/-- Takes the hyphens out of a text in groups, if they stand where they should. -/
def splitGroups : List Nat → List Char → Option (List Char)
  | [], s => some s
  | [_], s => some s
  | n :: rest, s =>
    match s.drop n with
    | '-' :: tail => (splitGroups rest tail).map (s.take n ++ ·)
    | _ => none

def text (u : Uuid) : List Char := joinGroups groups (u.digits.map hexChar)

/-- Reads thirty-two digits without hyphens. -/
def ofDigits? (s : List Char) : Option Uuid := do
  let digits ← s.mapM hexDigit?
  if h : digits.length = 32 then some ⟨digits, h⟩ else none

/-- Reads digits in groups. -/
def ofGroups? (s : List Char) : Option Uuid := (splitGroups groups s).bind ofDigits?

/-- What stands in front of the groups in the form of a resource name, in lower case. -/
def urn : List Char := "urn:uuid:".toList

def parse? (s : List Char) : Option Uuid :=
  if s.length = 32 then ofDigits? s
  else if s.length = 36 then ofGroups? s
  else if s.length = 38 ∧ s.head? = some '{' ∧ s.getLast? = some '}' then
    ofGroups? (s.drop 1).dropLast
  else if s.length = 45 ∧ urn.isPrefixOf (s.map Char.toLower) then ofGroups? (s.drop urn.length)
  else none

instance : Shape Uuid :=
  ⟨fun u => .str (String.ofList u.text), fun j => j.str?.bind (parse? ·.toList)⟩

end Uuid

end EventJournal
