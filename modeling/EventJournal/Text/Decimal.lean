/-
EventJournal/Text/Decimal.lean

Unsigned decimal numerals: an optional plus sign and one or more ASCII digits.
Leading zeros are allowed and there is no bound on the value; who needs a bound
checks the value.  `padded` writes a number with a least number of digits.
-/

namespace EventJournal.Text

/-- The value of an ASCII digit. -/
def digit? (c : Char) : Option Nat :=
  if c.isDigit then some (c.toNat - '0'.toNat) else none

/-- The value of the digits `s`, read after digits of value `acc`. -/
def digits? (acc : Nat) : List Char → Option Nat
  | [] => some acc
  | c :: rest => (digit? c).bind fun d => digits? (10 * acc + d) rest

/-- Reads a numeral that fills the whole text. -/
def numeral? : List Char → Option Nat
  | [] => none
  | c :: rest =>
    if c = '+' then (if rest = [] then none else digits? 0 rest) else digits? 0 (c :: rest)

/-- The decimal digits of `n`, with zeros in front up to `width` digits. -/
def padded (width n : Nat) : List Char :=
  let digits := (toString n).toList
  List.replicate (width - digits.length) '0' ++ digits

/-- The digits behind the point of `n / 10 ^ width`, without the zeros at the end. -/
def fraction (width n : Nat) : List Char :=
  ((padded width n).reverse.dropWhile (· = '0')).reverse

end EventJournal.Text
