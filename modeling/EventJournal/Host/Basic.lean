/-
EventJournal/Host/Basic.lean

A host keeps one journal and everything that works on it: readers, routers and
confirmations by name, the states of the projections, dispatchers, and workers with
their clocks.  Routers and confirmations come into being when they are first named.

A dispatcher works on parts of the host that it names.  `site` puts these together for
it and `settle` puts back what it has done, so dispatchers that share a router, a reader
or a journal see what the others do.  A dispatcher that is built under a name already in
use takes the name over; workers of the old one keep running it.
-/
import EventJournal.Dispatch.Worker
import EventJournal.Host.Rhythm

namespace EventJournal

/-- A dispatcher and the names of the parts on which it works. -/
structure Station (ι σ : Type) where
  dispatcher : Dispatcher ι σ
  reader : String
  router : String
  confirmer : String
  /-- The outcomes of its next attempts at reading. -/
  outages : List (Option JournalError)

/-- A worker, the number of its station, its supervisor and its two clocks. -/
structure Post where
  worker : Worker
  station : Nat
  supervisor : Supervisor
  cycles : Rhythm
  rechecks : Option Rhythm

/-- A journal and all that works on it. -/
structure Host (ι σ : Type) where
  projections : ι → Projection σ
  journal : Journal
  readers : Readers
  routers : Table String (Router ι)
  confirmations : Table String Confirmations
  memory : Table ι σ
  /-- All stations that were ever built, in order. -/
  stations : List (Station ι σ)
  /-- The numbers of the stations that can be named. -/
  dispatchers : Table String Nat
  workers : Table String Post
  /-- The milliseconds that have passed. -/
  clock : Nat
  /-- By how much the clock of the confirmations was set. -/
  shift : Int

namespace Host

variable {ι σ : Type}

/-- The host at the beginning. -/
def start (stamps : Nat → Stamp) (projections : ι → Projection σ) : Host ι σ :=
  ⟨projections, .empty stamps, .empty, ∅, ∅, ∅, [], ∅, ∅, 0, 0⟩

/-- The time that has passed, in nanoseconds. -/
def time (h : Host ι σ) : Nat := h.clock * TimeUnit.millisecond

/-- The time on the clock of the confirmations. -/
def now (h : Host ι σ) : Int := h.time + h.shift

/-- Sets the clock of the confirmations forward or back. -/
def advance (h : Host ι σ) (nanos : Int) : Host ι σ := { h with shift := h.shift + nanos }

def router (h : Host ι σ) (name : String) : Router ι := h.routers.getD name .empty

def confirmationsOf (h : Host ι σ) (name : String) : Confirmations :=
  h.confirmations.getD name .empty

def setRouter (h : Host ι σ) (name : String) (r : Router ι) : Host ι σ :=
  { h with routers := h.routers.insert name r }

def setConfirmations (h : Host ι σ) (name : String) (c : Confirmations) : Host ι σ :=
  { h with confirmations := h.confirmations.insert name c }

/-! ### Parts of the host -/

/-- Carries out an operation on the journal. -/
def onJournal {α : Type} (f : Journal → α × Journal) (h : Host ι σ) : α × Host ι σ :=
  let (answer, journal) := f h.journal
  (answer, { h with journal })

/-- Changes or asks the cursor of a reader; a reader has to have a name. -/
def onReader {α : Type} (name : String) (f : Journal → Readers → α × Readers) (h : Host ι σ) :
    Except JournalError α × Host ι σ :=
  match Readers.checkName name with
  | .error e => (.error e, h)
  | .ok () =>
    let (answer, readers) := f h.journal h.readers
    (.ok answer, { h with readers })

/-- The state of a projection. -/
def stateOf [DecidableEq ι] (h : Host ι σ) (i : ι) : σ :=
  h.memory.getD i (h.projections i).initial

/-- Adds a route to a router. -/
def register (h : Host ι σ) (router : String) (projection : ι) (patterns : List String)
    (description : String) : Except RoutingError Unit × Host ι σ :=
  match Route.of (h.projections projection).name projection patterns description with
  | .error e => (.error e, h)
  | .ok route =>
    let (answer, r) := (h.router router).register route
    (answer, h.setRouter router r)

/-- Takes all routes of a router away. -/
def clear (h : Host ι σ) (router : String) : Except RoutingError Unit × Host ι σ :=
  let (answer, r) := (h.router router).clear
  (answer, h.setRouter router r)

/-! ### Dispatchers -/

/-- Where the dispatcher of a station works. -/
def site (h : Host ι σ) (b : Station ι σ) : Site ι σ where
  journal := h.journal
  cursor := h.readers.position b.reader
  outages := b.outages
  router := h.router b.router
  confirmations := h.confirmationsOf b.confirmer
  memory := h.memory
  now := h.now
  trace := []

/-- The host after work at the site of the station of number `n`. -/
def settle (h : Host ι σ) (n : Nat) (b : Station ι σ) (s : Site ι σ) : Host ι σ :=
  { h with
    journal := s.journal
    readers := h.readers.seek b.reader s.cursor
    routers := h.routers.insert b.router s.router
    confirmations := h.confirmations.insert b.confirmer s.confirmations
    memory := s.memory
    stations := h.stations.set n { b with outages := s.outages } }

/-- Lets the dispatcher of the station of number `n` work at its site. -/
def atStation {α : Type} (h : Host ι σ) (n : Nat)
    (f : Station ι σ → Site ι σ → α × Site ι σ) : Option (α × Host ι σ) :=
  (h.stations[n]?).map fun b =>
    let (answer, s) := f b (h.site b)
    (answer, h.settle n b s)

/-- Lets the dispatcher of some name work at its site. -/
def atDispatcher {α : Type} (h : Host ι σ) (name : String)
    (f : Station ι σ → Site ι σ → α × Site ι σ) : Option (α × Host ι σ) :=
  (h.dispatchers.get? name).bind fun n => h.atStation n f

/-- Builds a dispatcher under a name, if its settings are in range. -/
def build (h : Host ι σ) (name : String) (config : DispatchConfig)
    (reader router confirmer : String) (outages : List (Option JournalError)) :
    Except DispatchError Unit × Host ι σ :=
  match config.flaw? with
  | some e => (.error (.config e), h)
  | none =>
    (.ok (),
      { h with
        stations := h.stations ++ [⟨⟨config, h.projections⟩, reader, router, confirmer, outages⟩]
        dispatchers := h.dispatchers.insert name h.stations.length })

end Host

end EventJournal
