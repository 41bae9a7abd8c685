/-
EventJournal/Text/Quoted.lean

Texts in descriptions of values: between double quotes, with a backslash before a quote
and before a backslash, with short names for four controls, and with the number of
every other character that cannot be shown on its own.
-/
import EventJournal.Text.Invisible

namespace EventJournal.Text

/-- The hexadecimal digits of `n`, without zeros in front. -/
def hex (n : Nat) : List Char := Nat.toDigits 16 n

/-- A character between the quotes. -/
def quotedChar (c : Char) : List Char :=
  if c = '"' ∨ c = '\\' then ['\\', c]
  else if c = '\x00' then ['\\', '0']
  else if c = '\t' then ['\\', 't']
  else if c = '\n' then ['\\', 'n']
  else if c = '\r' then ['\\', 'r']
  else if isInvisible c then ['\\', 'u', '\x7b'] ++ hex c.toNat ++ ['\x7d']
  else [c]

/-- A text between double quotes. -/
def quoted (s : String) : String :=
  String.ofList ('"' :: s.toList.flatMap quotedChar ++ ['"'])

/-- Texts between brackets, with commas. -/
def listed (items : List String) : String := "[" ++ ", ".intercalate items ++ "]"

/-- A record of named fields; one that is `cut` has more than are shown. -/
def described (name : String) (fields : List (String × String)) (cut : Bool) : String :=
  let shown := fields.map fun f => f.1 ++ ": " ++ f.2
  name ++ " \x7b " ++ ", ".intercalate (if cut then shown ++ [".."] else shown) ++ " \x7d"

end EventJournal.Text
