/-
EventJournal/Stream/ExpectedVersion.lean

What the writer of an append expects of the stream.  An exact expectation names the
version that the first new entry is to get, one above the current version; the
other three ask for less.  `nextAfter` is the exact expectation of a writer who has
seen the current version, and is met by that version only (`matches_nextAfter`).
-/
import EventJournal.Shape

namespace EventJournal

/-- What a stream has to look like for an append to go ahead. -/
inductive ExpectedVersion where
  | any
  | noStream
  | streamExists
  | exact (version : Nat)
deriving DecidableEq, Repr, Inhabited

namespace ExpectedVersion

/-- The expectation holds of a stream whose highest version is `current`. -/
def Matches (e : ExpectedVersion) (current : Nat) : Prop :=
  match e with
  | any => True
  | noStream => current = 0
  | streamExists => 0 < current
  | exact v => current + 1 = v

instance (e : ExpectedVersion) (current : Nat) : Decidable (e.Matches current) :=
  match e with
  | any => inferInstanceAs (Decidable True)
  | noStream => inferInstanceAs (Decidable (current = 0))
  | streamExists => inferInstanceAs (Decidable (0 < current))
  | exact v => inferInstanceAs (Decidable (current + 1 = v))

/-- The expectation of a writer who has seen version `current`. -/
def nextAfter (current : Nat) : ExpectedVersion := exact (current + 1)

@[simp] theorem matches_any {c : Nat} : any.Matches c := trivial

@[simp] theorem matches_noStream {c : Nat} : noStream.Matches c ↔ c = 0 := Iff.rfl

@[simp] theorem matches_streamExists {c : Nat} : streamExists.Matches c ↔ 0 < c := Iff.rfl

@[simp] theorem matches_exact {v c : Nat} : (exact v).Matches c ↔ c + 1 = v := Iff.rfl

@[simp] theorem matches_nextAfter {c d : Nat} : (nextAfter d).Matches c ↔ c = d := by
  rw [nextAfter, matches_exact]
  omega

def text : ExpectedVersion → String
  | any => "any"
  | noStream => "no stream"
  | streamExists => "stream exists"
  | exact v => toString v

/-! ### JSON -/

def toJson : ExpectedVersion → Json
  | any => .str "Any"
  | noStream => .str "NoStream"
  | streamExists => .str "StreamExists"
  | exact v => .obj [("Exact", Json.nat v)]

/-- The expectation with this name, among those that need no version. -/
def named? : String → Option ExpectedVersion
  | "Any" => some any
  | "NoStream" => some noStream
  | "StreamExists" => some streamExists
  | _ => none

def ofJson? : Json → Option ExpectedVersion
  | .obj [("Exact", v)] => (v.nat? 64).map exact
  | j => Shape.tag? named? j

instance : Shape ExpectedVersion := ⟨toJson, ofJson?⟩

end ExpectedVersion

end EventJournal
