/-
EventJournal/Text/Place.lean

Reasons that end by naming a place in a text: ` at line 3 column 7`.  In a told reason
the place is written with plain numbers, without zeros in front.  Lines are counted from
one, so a place in line 0 is none at all and is left out.

Only the last ` at line ` of a reason can begin its place, and the place has to end the
reason; its numbers are below 2^64.  A reason without a place is told as it is.
-/
import EventJournal.Text.Decimal

namespace EventJournal.Text

/-- What stands before and behind the last occurrence of `mark`, if there is one. -/
def splitLast (mark : List Char) : List Char → Option (List Char × List Char)
  | [] => none
  | c :: rest =>
    match splitLast mark rest with
    | some (before, behind) => some (c :: before, behind)
    | none =>
      if mark.isPrefixOf (c :: rest) then some ([], (c :: rest).drop mark.length) else none

theorem eq_append_of_splitLast {mark s before behind : List Char}
    (h : splitLast mark s = some (before, behind)) : s = before ++ mark ++ behind := by
  induction s generalizing before with
  | nil => cases h
  | cons c rest ih =>
    unfold splitLast at h
    split at h
    · rename_i b a hr
      cases h
      rw [ih hr]
      rfl
    · split at h
      · rename_i hp
        cases h
        obtain ⟨tail, ht⟩ := List.isPrefixOf_iff_prefix.1 hp
        rw [← ht, List.drop_left, List.nil_append]
      · cases h

/-- A place in a text. -/
structure Place where
  line : Nat
  column : Nat
deriving DecidableEq, Repr

namespace Place

def lineMark : List Char := " at line ".toList

def columnMark : List Char := " column ".toList

/-- Reads ASCII digits that stand for a number below 2^64. -/
def number? (s : List Char) : Option Nat :=
  if s.all Char.isDigit then (numeral? s).filter fun n => n < Nat.pow 2 64 else none

/-- Reads the two numbers of a place and what stands between them. -/
def ofNumbers? (s : List Char) : Option Place := do
  let rest := s.dropWhile Char.isDigit
  guard (columnMark.isPrefixOf rest)
  pure ⟨← number? (s.takeWhile Char.isDigit), ← number? (rest.drop columnMark.length)⟩

/-- The place as the end of a reason. -/
def text (p : Place) : List Char :=
  if p.line = 0 then []
  else lineMark ++ (toString p.line).toList ++ columnMark ++ (toString p.column).toList

end Place

/-- A reason as it is told. -/
def told (reason : String) : String :=
  match splitLast Place.lineMark reason.toList with
  | none => reason
  | some (before, behind) =>
    match Place.ofNumbers? behind with
    | none => reason
    | some place => String.ofList (before ++ place.text)

end EventJournal.Text
