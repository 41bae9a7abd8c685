/-
EventJournal/Proofs/Journal/Readers.lean

Readers of the whole journal are given its log, each entry once and in order.

Requests to a journal and to its readers come in any order.  The course of a reader is what
somebody sees who watches it alone: where it was moved to last, and what it has given since
then (`Course`).  What was given is a piece of the log that begins there and ends at the
cursor (`Course.Fits`).  A batch is the next piece, and the log only grows, so neither
breaks it.  A reader that was moved beyond the end of the log gives nothing until the log
has reached it, and then goes on from there.

Main result: after any requests every reader has given exactly the entries between the place
to which it was moved and its cursor (`deliversLog_after`).  The log knows nothing of deletes
and truncations, and so hidden entries are given like all others.
-/
import EventJournal.Proofs.Journal.History

namespace EventJournal

/-- A journal and the cursors of its readers. -/
structure Archive where
  journal : Journal
  readers : Readers

namespace Archive

/-- The archive without entries, of which no reader was asked for yet. -/
def opened (stamps : Nat → Stamp) : Archive := ⟨.empty stamps, .empty⟩

/-- The cursor of a reader, for somebody who asks for the reader by its name. -/
def ask (a : Archive) (name : String) : Except JournalError Nat :=
  (Readers.checkName name).map fun _ => a.readers.position name

/-! ### Requests -/

/-- What is asked of a journal or of one of its readers. -/
inductive Request where
  | operate (op : Operation)
  /-- Somebody asks for a reader. -/
  | ask (name : String)
  | readNext (name : String) (most : Nat)
  | seek (name : String) (position : Nat)
  | rewind (name : String)

namespace Request

/-- The archive after the request. -/
def make (r : Request) (a : Archive) : Archive :=
  match r with
  | operate op => { a with journal := (op.perform a.journal).2 }
  | ask _ => a
  | readNext name most => { a with readers := (a.readers.readNext a.journal name most).2 }
  | seek name position => { a with readers := a.readers.seek name position }
  | rewind name => { a with readers := a.readers.rewind name }

/-- The reader to which the request goes. -/
def reader? : Request → Option String
  | operate _ => none
  | ask name | readNext name _ | seek name _ | rewind name => some name

end Request

/-- The archive after some requests. -/
def after (a : Archive) (requests : List Request) : Archive :=
  requests.foldl (fun a r => r.make a) a

theorem after_append (a : Archive) (before later : List Request) :
    a.after (before ++ later) = (a.after before).after later := List.foldl_append ..

/-! ### The course of a reader -/

/-- What is seen of a reader. -/
structure Course where
  /-- Where it was moved to last. -/
  start : Nat := 0
  /-- What it has given since then. -/
  given : List Entry := []

/-- The course of the reader `name` after a request to the archive `a`. -/
def Course.next (c : Course) (name : String) (a : Archive) : Request → Course
  | .operate _ | .ask _ => c
  | .readNext name' most =>
    if name' = name then
      { c with given := c.given ++ (a.readers.readNext a.journal name most).1 }
    else c
  | .seek name' position => if name' = name then { start := position } else c
  | .rewind name' => if name' = name then { start := 0 } else c

/-- The course of the reader `name` after some requests, from the course `c` on. -/
def course (name : String) : Archive → List Request → Course → Course
  | _, [], c => c
  | a, r :: requests, c => course name (r.make a) requests (c.next name a r)

/-- What the reader has given is the piece of the log between its start and its cursor. -/
structure Course.Fits (c : Course) (name : String) (a : Archive) : Prop where
  cursor : a.readers.position name = c.start + c.given.length
  given : c.given <+: a.journal.log.drop c.start

variable {name : String} {a : Archive} {c : Course} {r : Request}

/-! ### One request -/

/-- A request to another reader, or to the journal, leaves the cursor alone. -/
theorem position_make_of_ne (a : Archive) (h : r.reader? ≠ some name) :
    (r.make a).readers.position name = a.readers.position name := by
  have hmoved {name' : String} (hname : some name' ≠ some name) (p : Nat) :
      (a.readers.seek name' p).position name = a.readers.position name := by
    rw [Readers.position_seek, if_neg fun heq => hname (congrArg some heq.symm)]
  cases r with
  | operate op => rfl
  | ask name' => rfl
  | readNext name' most => exact hmoved h _
  | seek name' p => exact hmoved h p
  | rewind name' => exact hmoved h 0

theorem journal_make_of_isSome (a : Archive) (h : r.reader?.isSome) :
    (r.make a).journal = a.journal := by
  cases r with
  | operate op => cases h
  | _ => rfl

theorem extends_make (a : Archive) (r : Request) : a.journal.Extends (r.make a).journal := by
  cases r with
  | operate op => exact a.journal.extends_perform op
  | _ => exact .refl _

theorem Course.next_of_ne (c : Course) (a : Archive) (h : r.reader? ≠ some name) :
    c.next name a r = c := by
  have hne {name' : String} (hname : some name' ≠ some name) : name' ≠ name :=
    fun heq => hname (congrArg some heq)
  cases r with
  | operate op => rfl
  | ask name' => rfl
  | readNext name' most => exact if_neg (hne h)
  | seek name' p => exact if_neg (hne h)
  | rewind name' => exact if_neg (hne h)

/-- A batch is the next piece of the log. -/
theorem Course.Fits.readNext (h : c.Fits name a) (most : Nat) :
    Course.Fits { c with given := c.given ++ (a.readers.readNext a.journal name most).1 } name
      ((Request.readNext name most).make a) where
  cursor := by
    -- reading moves the cursor behind the batch
    show (a.readers.seek name _).position name = c.start + (c.given ++ _).length
    rw [Readers.position_seek, if_pos rfl, List.length_append, ← Nat.add_assoc, ← h.cursor]
    rfl
  given := by
    obtain ⟨rest, hrest⟩ := h.given
    -- the cursor is behind what was given, so what is still to be given is what is read next
    have hnext : a.journal.log.drop (a.readers.position name) = rest := by
      rw [h.cursor, ← List.drop_drop, ← hrest, List.drop_left]
    show c.given ++ (a.journal.log.drop (a.readers.position name)).take most
      <+: a.journal.log.drop c.start
    rw [hnext, ← hrest, List.prefix_append_right_inj]
    exact List.take_prefix most rest

/-- A reader that was just moved has given nothing. -/
theorem Course.fits_seek (name : String) (a : Archive) (position : Nat) :
    Course.Fits { start := position } name { a with readers := a.readers.seek name position } where
  cursor := (Readers.position_seek ..).trans (if_pos rfl)
  given := List.nil_prefix

/-- A course goes on fitting. -/
theorem Course.Fits.next (h : c.Fits name a) (r : Request) :
    (c.next name a r).Fits name (r.make a) := by
  by_cases hname : r.reader? = some name
  · cases r with
    | operate op => cases hname
    | ask name' => exact h
    | readNext name' most =>
      cases hname
      rw [Course.next, if_pos rfl]
      exact h.readNext most
    | seek name' position =>
      cases hname
      rw [Course.next, if_pos rfl]
      exact fits_seek name a position
    | rewind name' =>
      cases hname
      rw [Course.next, if_pos rfl]
      exact fits_seek name a 0
  · -- nothing happens to this reader, and the journal may grow
    rw [Course.next_of_ne c a hname]
    have hextends := extends_make a r
    obtain ⟨added, hlog⟩ := hextends.log_prefix
    refine ⟨(position_make_of_ne a hname).trans h.cursor, h.given.trans ?_⟩
    rw [← hlog, List.drop_append]
    exact List.prefix_append ..

/-! ### Many requests -/

/-- The course of a reader fits, by induction on the requests. -/
theorem Course.Fits.course (h : c.Fits name a) (requests : List Request) :
    (a.course name requests c).Fits name (a.after requests) := by
  induction requests generalizing a c with
  | nil => exact h
  | cons r requests ih => exact ih (h.next r)

theorem extends_after (a : Archive) (requests : List Request) :
    a.journal.Extends (a.after requests).journal := by
  induction requests generalizing a with
  | nil => exact .refl _
  | cons r requests ih => exact (extends_make a r).trans (ih _)

/-- The course of a reader of a new archive. -/
theorem Course.fits_opened (stamps : Nat → Stamp) (requests : List Request) (name : String) :
    ((opened stamps).course name requests {}).Fits name ((opened stamps).after requests) :=
  have hopened : Course.Fits {} name (opened stamps) := ⟨rfl, List.nil_prefix⟩
  hopened.course requests

theorem indexed_opened_after (stamps : Nat → Stamp) (requests : List Request) :
    ((opened stamps).after requests).journal.Indexed :=
  (extends_after (opened stamps) requests).indexed (Journal.indexed_empty stamps)

theorem extends_after_of_append {before later requests : List Request}
    (h : requests = before ++ later) (a : Archive) :
    (a.after before).journal.Extends (a.after requests).journal := by
  rw [h, after_append]
  exact extends_after ..

/-! ### What was given -/

namespace Course.Fits

/-- What was given is the log between the start and the cursor. -/
theorem given_eq (h : c.Fits name a) :
    c.given = (a.journal.log.drop c.start).take (a.readers.position name - c.start) := by
  rw [h.cursor, Nat.add_sub_cancel_left]
  exact List.prefix_iff_eq_take.mp h.given

/-- A reader that has given something was not moved beyond the end of the log. -/
theorem cursor_le (h : c.Fits name a) (hstart : c.start ≤ a.journal.length) :
    a.readers.position name ≤ a.journal.length := by
  -- no more can be given than stands behind the start
  have hgiven : c.given.length ≤ a.journal.length - c.start := by
    rw [Journal.length, ← List.length_drop]
    exact h.given.length_le
  have hcursor := h.cursor
  omega

/-- Beyond the end of the log there is nothing to be given. -/
theorem given_eq_nil (h : c.Fits name a) (hstart : a.journal.length < c.start) : c.given = [] := by
  have hbeyond : a.journal.log.drop c.start = [] := List.drop_eq_nil_of_le (Nat.le_of_lt hstart)
  exact List.prefix_nil.mp (hbeyond ▸ h.given)

/-- The global positions of what was given are consecutive numbers. -/
theorem map_globalPosition (h : c.Fits name a) (hj : a.journal.Indexed) :
    c.given.map Entry.globalPosition
      = List.range' c.start (a.readers.position name - c.start) := by
  rw [h.cursor, Nat.add_sub_cancel_left]
  apply List.ext_getElem
  · rw [List.length_map, List.length_range']
  · intro k hk _
    have hk' : k < c.given.length := by rwa [List.length_map] at hk
    obtain ⟨rest, hrest⟩ := h.given
    -- the entry stands in the log as far behind the start as in what was given
    have hlog : a.journal.log[c.start + k]? = some c.given[k] := by
      rw [← List.getElem?_drop, ← hrest, List.getElem?_append_left hk',
        List.getElem?_eq_getElem hk']
    rw [List.getElem_map, hj.globalPosition_eq hlog, List.getElem_range', Nat.one_mul]

/-- An entry of the log between the start and the cursor was given. -/
theorem mem_given (h : c.Fits name a) (hj : a.journal.Indexed) {e : Entry}
    (he : e ∈ a.journal.log) (hstart : c.start ≤ e.globalPosition)
    (hcursor : e.globalPosition < a.readers.position name) : e ∈ c.given := by
  obtain ⟨p, hp⟩ := List.mem_iff_getElem?.mp he
  rw [hj.globalPosition_eq hp] at hstart hcursor
  rw [h.given_eq, List.mem_iff_getElem?]
  -- the entry was given as far behind the first one as it stands behind the start
  refine ⟨p - c.start, ?_⟩
  rw [List.getElem?_take_of_lt (by omega), List.getElem?_drop, Nat.add_sub_cancel' hstart, hp]

end Course.Fits

/-- Every reader of a new archive has given the log once and in order. -/
structure DeliversLog (stamps : Nat → Stamp) (requests : List Request) : Prop where
  /-- The cursor is as far behind the start as there are entries given. -/
  cursor : ∀ name, let c := (opened stamps).course name requests {}
    ((opened stamps).after requests).readers.position name = c.start + c.given.length
  /-- A reader has given the entries from its start to its cursor, which is in the log. -/
  within : ∀ name, let c := (opened stamps).course name requests {}
    let a := (opened stamps).after requests
    c.start ≤ a.journal.length →
      c.given = (a.journal.log.drop c.start).take (a.readers.position name - c.start) ∧
      c.given.map Entry.globalPosition
        = List.range' c.start (a.readers.position name - c.start) ∧
      a.readers.position name ≤ a.journal.length
  /-- A reader that was moved beyond the end of the log waits there. -/
  beyond : ∀ name, let c := (opened stamps).course name requests {}
    let a := (opened stamps).after requests
    a.journal.length < c.start → c.given = [] ∧ a.readers.position name = c.start
  /-- No entry is left out that was ever in the log, whatever becomes of its stream. -/
  complete : ∀ name before later, requests = before ++ later →
    let c := (opened stamps).course name requests {}
    ∀ e ∈ ((opened stamps).after before).journal.log, c.start ≤ e.globalPosition →
      e.globalPosition < ((opened stamps).after requests).readers.position name → e ∈ c.given
  /-- A batch is as long as it may be. -/
  batch : ∀ name most before later, requests = before ++ .readNext name most :: later →
    let a := (opened stamps).after before
    (a.readers.readNext a.journal name most).1.length
      = min most (a.journal.length - a.readers.position name)
  /-- Who asks for a reader finds its cursor where it is, and does not move it. -/
  asked : ∀ name before later, requests = before ++ .ask name :: later → name ≠ "" →
    let a := (opened stamps).after before
    a.ask name = .ok (a.readers.position name) ∧ (Request.ask name).make a = a
  /-- A request to one reader does not move another. -/
  apart : ∀ name r before later, requests = before ++ r :: later → r.reader? ≠ some name →
    let a := (opened stamps).after before
    (r.make a).readers.position name = a.readers.position name
  /-- A request to a reader does not change the journal. -/
  unchanged : ∀ r before later, requests = before ++ r :: later → r.reader?.isSome →
    let a := (opened stamps).after before
    (r.make a).journal = a.journal

/-- Readers give every entry once and in order: in any requests to the journal and to any
readers of it, what a reader gives is the log from where it was moved to up to its cursor. -/
theorem deliversLog_after (stamps : Nat → Stamp) (requests : List Request) :
    DeliversLog stamps requests where
  cursor name := (Course.fits_opened stamps requests name).cursor
  within name hstart :=
    have hfits := Course.fits_opened stamps requests name
    ⟨hfits.given_eq, hfits.map_globalPosition (indexed_opened_after stamps requests),
      hfits.cursor_le hstart⟩
  beyond name hstart := by
    have hfits := Course.fits_opened stamps requests name
    have hgiven := hfits.given_eq_nil hstart
    exact ⟨hgiven, by rw [hfits.cursor, hgiven, List.length_nil, Nat.add_zero]⟩
  complete name before later hrequests e he := by
    -- what was in the log then is still there
    have hextends := extends_after_of_append hrequests (opened stamps)
    have hlog := hextends.log_prefix
    exact (Course.fits_opened stamps requests name).mem_given
      (indexed_opened_after stamps requests) (hlog.subset he)
  batch name most before later _ := Journal.length_readFrom ..
  asked name before later _ hname := by
    refine ⟨?_, rfl⟩
    rw [ask, Readers.checkName, if_neg hname]
    rfl
  apart name r before later _ hname := position_make_of_ne _ hname
  unchanged r before later _ hreader := journal_make_of_isSome _ hreader

end Archive

end EventJournal
