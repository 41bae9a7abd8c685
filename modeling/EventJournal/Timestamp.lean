/-
EventJournal/Timestamp.lean

Points in time, as a date and a time of day in UTC, to the nanosecond.  A leap
second is the last second of a minute with a nanosecond count of 10^9 or more.

They are written as RFC 3339 has it, with `Z`, and with three, six or nine digits
behind the point where the nanoseconds need them.  The reader is lenient: blanks may
stand between the parts, numbers may be short, a blank or `t` may stand for `T`, and
any offset below a day is accepted and taken off.
-/
import EventJournal.Shape
import EventJournal.Text.Blank
import EventJournal.Text.Decimal
import EventJournal.TimeUnit

namespace EventJournal

/-! ### Dates -/

def isLeapYear (year : Int) : Bool := year % 4 = 0 && (year % 100 ≠ 0 || year % 400 = 0)

/-- The days of each month; zero if there is no such month. -/
def daysIn (year : Int) (month : Nat) : Nat :=
  match month with
  | 1 | 3 | 5 | 7 | 8 | 10 | 12 => 31
  | 4 | 6 | 9 | 11 => 30
  | 2 => if isLeapYear year then 29 else 28
  | _ => 0

/-- A day of the calendar. -/
structure Date where
  year : Int
  month : Nat
  day : Nat
  valid : 1 ≤ day ∧ day ≤ daysIn year month ∧ -262143 ≤ year ∧ year ≤ 262142
deriving DecidableEq, Repr

namespace Date

/-- The day with these numbers, if the calendar has it. -/
def of? (year : Int) (month day : Nat) : Option Date :=
  if h : 1 ≤ day ∧ day ≤ daysIn year month ∧ -262143 ≤ year ∧ year ≤ 262142 then
    some ⟨year, month, day, h⟩
  else none

/-- The day after. -/
def next? (d : Date) : Option Date :=
  if d.day < daysIn d.year d.month then of? d.year d.month (d.day + 1)
  else if d.month < 12 then of? d.year (d.month + 1) 1
  else of? (d.year + 1) 1 1

/-- The day before. -/
def prev? (d : Date) : Option Date :=
  if 1 < d.day then of? d.year d.month (d.day - 1)
  else if 1 < d.month then of? d.year (d.month - 1) (daysIn d.year (d.month - 1))
  else of? (d.year - 1) 12 31

/-- Four digits of the year, with a sign if it has more or is negative, then month and day. -/
def text (d : Date) : List Char :=
  let sign := if d.year < 0 then ['-'] else if 9999 < d.year then ['+'] else []
  sign ++ Text.padded 4 d.year.natAbs ++ '-' :: Text.padded 2 d.month
    ++ '-' :: Text.padded 2 d.day

end Date

/-- A point in time. -/
structure Timestamp where
  date : Date
  hour : Nat
  minute : Nat
  second : Nat
  nanos : Nat
  valid : hour < 24 ∧ minute < 60 ∧ second < 60 ∧ nanos < 2 * TimeUnit.second
    ∧ (TimeUnit.second ≤ nanos → second = 59)
deriving DecidableEq, Repr

namespace Timestamp

/-- The start of the year 1970. -/
def epoch : Timestamp := ⟨⟨1970, 1, 1, by decide⟩, 0, 0, 0, 0, by decide⟩

instance : Inhabited Timestamp := ⟨epoch⟩

/-- The digits behind the point, as few groups of three as hold them. -/
def fraction (nanos : Nat) : List Char :=
  if nanos = 0 then []
  else if nanos % TimeUnit.millisecond = 0 then
    '.' :: Text.padded 3 (nanos / TimeUnit.millisecond)
  else if nanos % TimeUnit.microsecond = 0 then
    '.' :: Text.padded 6 (nanos / TimeUnit.microsecond)
  else '.' :: Text.padded 9 nanos

def text (t : Timestamp) : List Char :=
  let second := if t.nanos < TimeUnit.second then t.second else t.second + 1
  t.date.text ++ 'T' :: Text.padded 2 t.hour ++ ':' :: Text.padded 2 t.minute
    ++ ':' :: Text.padded 2 second ++ fraction (t.nanos % TimeUnit.second) ++ ['Z']

/-! ### Reading -/

/-- A reader takes a value from the front of a text and leaves the rest. -/
abbrev Reader (α : Type) : Type := List Char → Option (α × List Char)

/-- Between one and `most` digits, and how many there were. -/
def digitRun? (most : Nat) : Reader (Nat × Nat) := fun s =>
  let digits := (s.take most).takeWhile Char.isDigit
  if digits = [] then none
  else (Text.digits? 0 digits).map fun n => ((n, digits.length), s.drop digits.length)

/-- A number of at most `most` digits, behind blanks. -/
def number? (most : Nat) : Reader Nat := fun s =>
  (digitRun? most (Text.trimStart s)).map fun r => (r.1.1, r.2)

/-- A year: up to four digits, or any number of them behind a sign. -/
def year? : Reader Int := fun s =>
  match Text.trimStart s with
  | '-' :: rest => (digitRun? rest.length rest).map fun r => (-(r.1.1 : Int), r.2)
  | '+' :: rest => (digitRun? rest.length rest).map fun r => ((r.1.1 : Int), r.2)
  | rest => (digitRun? 4 rest).map fun r => ((r.1.1 : Int), r.2)

/-- The character `c`, behind blanks. -/
def mark? (c : Char) : Reader Unit := fun s =>
  match Text.trimStart s with
  | d :: rest => if d = c then some ((), rest) else none
  | [] => none

/-- The nanoseconds that digits behind a point name; digits beyond the ninth are dropped. -/
def nanos? : Reader Nat
  | '.' :: s => (digitRun? 9 s).map fun r =>
      (r.1.1 * Nat.pow 10 (9 - r.1.2), r.2.dropWhile Char.isDigit)
  | s => some (0, s)

/-- The sign of an offset. -/
def offsetSign? : Reader Int
  | '+' :: rest => some (1, rest)
  | '-' :: rest => some (-1, rest)
  | '−' :: rest => some (-1, rest)
  | _ => none

/-- Exactly two digits. -/
def twoDigits? : Reader Nat
  | a :: b :: rest => do
    let x ← Text.digit? a
    let y ← Text.digit? b
    pure (10 * x + y, rest)
  | _ => none

/-- The minutes by which local time is ahead of UTC. -/
def offset? : Reader Int := fun s =>
  let s := Text.trimStart s
  if (s.take 3).map Char.toUpper = ['U', 'T', 'C'] then some (0, s.drop 3)
  else match s with
    | 'Z' :: rest => some (0, rest)
    | 'z' :: rest => some (0, rest)
    | _ => do
      let (sign, s) ← offsetSign? s
      let (hours, s) ← twoDigits? s
      let (minutes, s) ← twoDigits? (s.dropWhile fun c => c = ':' || Text.isBlank c)
      if hours < 24 ∧ minutes < 60 then pure (sign * (60 * hours + minutes), s) else none

/-- The point in time at a local date and time, `offset` minutes ahead of UTC. -/
def ofLocal? (date : Date) (hour minute second nanos : Nat) (offset : Int) : Option Timestamp := do
  guard (hour < 24 ∧ minute < 60 ∧ second ≤ 60)
  let inDay : Int := 60 * hour + minute - offset
  let date ← if inDay < 0 then date.prev? else if 1440 ≤ inDay then date.next? else some date
  let minutes := (inDay % 1440).toNat
  let (second, nanos) := if second = 60 then (59, nanos + TimeUnit.second) else (second, nanos)
  if h : minutes / 60 < 24 ∧ minutes % 60 < 60 ∧ second < 60 ∧ nanos < 2 * TimeUnit.second
      ∧ (TimeUnit.second ≤ nanos → second = 59) then
    some ⟨date, minutes / 60, minutes % 60, second, nanos, h⟩
  else none

def parse? (s : List Char) : Option Timestamp := do
  let (year, s) ← year? s
  let (_, s) ← mark? '-' s
  let (month, s) ← number? 2 s
  let (_, s) ← mark? '-' s
  let (day, s) ← number? 2 s
  let date ← Date.of? year month day
  let (between, s) ← s.head?.map (·, s.drop 1)
  guard (between = 'T' ∨ between = 't' ∨ between = ' ')
  let (hour, s) ← number? 2 s
  let (_, s) ← mark? ':' s
  let (minute, s) ← number? 2 s
  let (_, s) ← mark? ':' s
  let (second, s) ← number? 2 s
  let (nanos, s) ← nanos? s
  let (offset, s) ← offset? s
  guard (Text.trimStart s = [])
  ofLocal? date hour minute second nanos offset

instance : Shape Timestamp :=
  ⟨fun t => .str (String.ofList t.text), fun j => j.str?.bind (parse? ·.toList)⟩

end Timestamp

end EventJournal
