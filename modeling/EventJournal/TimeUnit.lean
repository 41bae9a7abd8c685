/-
EventJournal/TimeUnit.lean

Units of time, in nanoseconds.  All times and spans of the library are whole numbers of
nanoseconds.
-/

namespace EventJournal.TimeUnit

def microsecond : Nat := 1000

def millisecond : Nat := 1000 * microsecond

def second : Nat := 1000 * millisecond

def hour : Nat := 3600 * second

def day : Nat := 24 * hour

end EventJournal.TimeUnit
