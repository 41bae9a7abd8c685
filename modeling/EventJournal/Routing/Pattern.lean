/-
EventJournal/Routing/Pattern.lean

Routing patterns.  A star at either end of a pattern stands for any text, a star
elsewhere for itself.  Patterns are compiled once into one of five tests on a reason.
A pattern that is a star at both of its ends keeps what lies between them; when
nothing lies between them it is passed by every reason.
-/

namespace EventJournal

/-- A compiled pattern. -/
inductive Pattern where
  | any
  | exact (text : String)
  | startsWith (text : String)
  | endsWith (text : String)
  | contains (text : String)
deriving DecidableEq, Repr

namespace Pattern

/-- The character that stands for any text at the ends of a pattern. -/
def star : Char := '*'

/-- Compiles the characters of a pattern. -/
def ofChars (s : List Char) : Pattern :=
  if s = [star] ∨ s = [star, star] then any
  else if s.head? = some star then
    if s.getLast? = some star then contains (String.ofList s.tail.dropLast)
    else endsWith (String.ofList s.tail)
  else
    if s.getLast? = some star then startsWith (String.ofList s.dropLast)
    else exact (String.ofList s)

/-- Compiles a pattern. -/
def compile (s : String) : Pattern := ofChars s.toList

/-- The reason passes the test. -/
def Matches : Pattern → String → Prop
  | any, _ => True
  | exact t, r => r = t
  | startsWith t, r => t.toList <+: r.toList
  | endsWith t, r => t.toList <:+ r.toList
  | contains t, r => t.toList <:+: r.toList

instance (p : Pattern) (r : String) : Decidable (p.Matches r) :=
  match p with
  | any => inferInstanceAs (Decidable True)
  | exact t => inferInstanceAs (Decidable (r = t))
  | startsWith t => inferInstanceAs (Decidable (t.toList <+: r.toList))
  | endsWith t => inferInstanceAs (Decidable (t.toList <:+ r.toList))
  | contains t => inferInstanceAs (Decidable (t.toList <:+: r.toList))

/-- More than one text can pass. -/
def isWildcard : Pattern → Bool
  | exact _ => false
  | _ => true

end Pattern

end EventJournal
