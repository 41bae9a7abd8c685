/-
EventJournal/Stream/Id.lean

The identity of a stream: an opaque text chosen by the writer.  The journal refuses
the empty text; the type admits it, so that a refused request can be named.
-/
import EventJournal.Shape

namespace EventJournal

/-- The identity of a stream. -/
structure StreamId where
  name : String
deriving DecidableEq, Repr, Inhabited

namespace StreamId

def isEmpty (id : StreamId) : Bool := id.name.isEmpty

/-- Ids are compared by the code points of their texts. -/
protected def compare (a b : StreamId) : Ordering := Ord.compare a.name b.name

instance : Ord StreamId := ⟨StreamId.compare⟩

instance : Shape StreamId := ⟨fun id => .str id.name, fun j => j.str?.map StreamId.mk⟩

end StreamId

end EventJournal
