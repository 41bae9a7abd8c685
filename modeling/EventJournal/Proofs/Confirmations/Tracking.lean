/-
EventJournal/Proofs/Confirmations/Tracking.lean

The life of an identity: unknown, then pending, then confirmed, and never back.

The bookkeeping is called by everybody, in any order and with any clock.  What it holds
follows from the calls (`Confirmations.Tells`): an identity is confirmed if some call
confirmed it, and otherwise its record is what the calls that handed it out add up to
(`Outstanding.ofHandOuts?`).  Those that came after it was confirmed count for nothing, and
so a record counts all of them or is gone.

Main result: after any calls the bookkeeping has gone one way only (`oneWay_after`).  Attempts
are counted with 32 bits, so a record shows their number as long as there are fewer than 2^32.
-/
import EventJournal.Proofs.Confirmations
import Mathlib.Data.Set.Card

namespace EventJournal

/-- The record of a projectable that was handed out at these times and in these forms. -/
def Outstanding.ofHandOuts? (hs : List (Int × Projectable)) : Option Outstanding :=
  match hs.head?, hs.getLast? with
  | some first, some last => some ⟨first.2, last.1, .ofNat hs.length⟩
  | _, _ => none

namespace Outstanding

variable {hs : List (Int × Projectable)} {r : Outstanding}

/-- One more hand-out makes the record, or is one more attempt with a new time. -/
theorem ofHandOuts?_concat (hs : List (Int × Projectable)) (now : Int) (p : Projectable) :
    ofHandOuts? (hs ++ [(now, p)]) = some (match ofHandOuts? hs with
      | none => ⟨p, now, 1⟩
      | some r => r.again now) := by
  unfold ofHandOuts?
  cases hs with
  | nil => rfl
  | cons h hs =>
    rw [List.getLast?_concat, List.getLast?_cons, List.length_append, UInt32.ofNat_add]
    rfl

/-- There is a record if there was a hand-out. -/
theorem ofHandOuts?_eq_none_iff : ofHandOuts? hs = none ↔ hs = [] := by
  unfold ofHandOuts?
  cases hs with
  | nil => simp
  | cons h hs => simp [List.getLast?_cons]

/-- What stands in a record: the first form, the last time and how many there were. -/
theorem eq_of_ofHandOuts? (h : ofHandOuts? hs = some r) :
    hs.head?.map Prod.snd = some r.projectable ∧ hs.getLast?.map Prod.fst = some r.since ∧
      r.attempts = .ofNat hs.length := by
  unfold ofHandOuts? at h
  split at h
  · rename_i first last hfirst hlast
    cases h
    rw [hfirst, hlast]
    exact ⟨rfl, rfl, rfl⟩
  · cases h

end Outstanding

namespace Confirmations

/-! ### Calls -/

/-- What is asked of the bookkeeping, with what the clock shows then. -/
inductive Call where
  | markPending (now : Int) (p : Projectable)
  | confirm (p : Projectable)
  /-- Somebody asks what is overdue. -/
  | overdue (now : Int) (threshold : Duration)

namespace Call

/-- The bookkeeping after the call. -/
def make (call : Call) (c : Confirmations) : Confirmations :=
  match call with
  | markPending now p => c.markPending now p
  | confirm p => c.confirm p
  | overdue _ _ => c

/-- The identity that the call is about. -/
def subject? : Call → Option ProjectableId
  | markPending _ p | confirm p => some p.id
  | overdue _ _ => none

def Confirms (id : ProjectableId) : Call → Prop
  | confirm p => p.id = id
  | _ => False

/-- The time at which the call hands the identity out, and the projectable. -/
def handOut? (id : ProjectableId) : Call → Option (Int × Projectable)
  | markPending now p => if p.id = id then some (now, p) else none
  | _ => none

end Call

/-- The bookkeeping after some calls. -/
def after (calls : List Call) : Confirmations := calls.foldl (fun c call => call.make c) empty

/-- When and in which form the identity was handed out. -/
def handOuts (id : ProjectableId) (calls : List Call) : List (Int × Projectable) :=
  calls.filterMap (Call.handOut? id)

theorem after_concat (calls : List Call) (call : Call) :
    after (calls ++ [call]) = call.make (after calls) := List.foldl_concat ..

theorem handOuts_concat (id : ProjectableId) (calls : List Call) (call : Call) :
    handOuts id (calls ++ [call]) = handOuts id calls ++ (call.handOut? id).toList := by
  unfold handOuts
  rw [List.filterMap_append]
  cases h : call.handOut? id <;> simp [h]

/-! ### One call -/

variable {c : Confirmations} {id : ProjectableId} {calls : List Call} {call : Call}

/-- Marking writes one record, and counts on in it if it is there. -/
theorem get?_markPending {now : Int} {p : Projectable} (h : ¬ c.IsConfirmed p.id) :
    (c.markPending now p).pending.get? id = if id = p.id then some (match c.pending.get? p.id with
      | none => ⟨p, now, 1⟩
      | some r => r.again now) else c.pending.get? id := by
  unfold markPending
  rw [if_neg h]
  exact Table.get?_insert ..

/-- A call leaves identities alone that it is not about. -/
theorem make_of_subject?_ne (c : Confirmations) (h : call.subject? ≠ some id) :
    (call.make c).pending.get? id = c.pending.get? id ∧
      ((call.make c).IsConfirmed id ↔ c.IsConfirmed id) := by
  cases call with
  | markPending now p =>
    have hid : id ≠ p.id := fun hid => h (congrArg some hid.symm)
    refine ⟨?_, isConfirmed_markPending⟩
    by_cases hp : c.IsConfirmed p.id
    · rw [Call.make, markPending_of_isConfirmed now hp]
    · exact (get?_markPending hp).trans (if_neg hid)
  | confirm p =>
    have hid : id ≠ p.id := fun hid => h (congrArg some hid.symm)
    refine ⟨?_, ?_⟩
    · exact (Table.get?_erase ..).trans (if_neg hid)
    · exact isConfirmed_confirm.trans (or_iff_right hid)
  | overdue now threshold => exact ⟨rfl, Iff.rfl⟩

/-- A call confirms what it is about, if it confirms at all. -/
theorem isConfirmed_make_iff (c : Confirmations) (call : Call) (id : ProjectableId) :
    (call.make c).IsConfirmed id ↔ c.IsConfirmed id ∨ call.Confirms id := by
  cases call with
  | markPending now p => exact isConfirmed_markPending.trans (or_false _).symm.to_iff
  | confirm p => exact isConfirmed_confirm.trans (by rw [or_comm, eq_comm]; rfl)
  | overdue now threshold => exact (or_false _).symm.to_iff

theorem nodup_make (h : c.confirmed.Nodup) (call : Call) : (call.make c).confirmed.Nodup := by
  cases call with
  | markPending now p =>
    show (c.markPending now p).confirmed.Nodup
    rwa [confirmed_markPending]
  | confirm p => exact h.insert
  | overdue now threshold => exact h

/-! ### Many calls -/

/-- The bookkeeping holds what the calls say. -/
structure Tells (c : Confirmations) (calls : List Call) : Prop where
  confirmed : ∀ id, c.IsConfirmed id ↔ ∃ call ∈ calls, call.Confirms id
  /-- The record of an identity that is not confirmed counts all that handed it out. -/
  pending : ∀ id, c.pending.get? id
    = if c.IsConfirmed id then none else Outstanding.ofHandOuts? (handOuts id calls)
  nodup : c.confirmed.Nodup

theorem tells_empty : empty.Tells [] where
  confirmed id := by simp [IsConfirmed, empty]
  pending _ := rfl
  nodup := .nil

/-- One more call adds itself to what the calls say. -/
theorem Tells.make (h : c.Tells calls) (call : Call) : (call.make c).Tells (calls ++ [call]) where
  confirmed id := by
    simp only [isConfirmed_make_iff, h.confirmed, List.mem_append, List.mem_singleton, or_and_right,
      exists_or, exists_eq_left]
  pending id := by
    rw [handOuts_concat]
    by_cases hsubject : call.subject? = some id
    · cases call with
      | markPending now p =>
        cases hsubject
        have hout : (Call.markPending now p).handOut? p.id = some (now, p) := if_pos rfl
        by_cases hp : c.IsConfirmed p.id
        · rw [Call.make, markPending_of_isConfirmed now hp, h.pending, if_pos hp, if_pos hp]
        · -- marking confirms nothing, so the record shows
          have hstill : ¬ (c.markPending now p).IsConfirmed p.id := mt isConfirmed_markPending.1 hp
          rw [Call.make, get?_markPending hp, if_pos rfl, if_neg hstill, h.pending, if_neg hp, hout,
            Option.toList_some, Outstanding.ofHandOuts?_concat]
      | confirm p =>
        cases hsubject
        have hconfirms : (Call.confirm p).Confirms p.id := rfl
        -- once it is confirmed there is no record any more
        rw [if_pos ((isConfirmed_make_iff ..).2 (Or.inr hconfirms))]
        exact (Table.get?_erase ..).trans (if_pos rfl)
      | overdue now threshold => cases hsubject
    · obtain ⟨hget, hconfirmed⟩ := make_of_subject?_ne c hsubject
      have hout : call.handOut? id = none := by
        cases call with
        | markPending now p => exact if_neg fun hid => hsubject (congrArg some hid)
        | _ => rfl
      rw [hget, h.pending, hout, Option.toList_none, List.append_nil]
      exact if_congr hconfirmed.symm rfl rfl
  nodup := nodup_make h.nodup call

/-- What the bookkeeping holds follows from the calls, by induction on the calls from the last. -/
theorem tells_after (calls : List Call) : (after calls).Tells calls := by
  induction calls using List.reverseRecOn with
  | nil => exact tells_empty
  | append_singleton calls call ih =>
    rw [after_concat]
    exact ih.make call

/-- A confirmation is not undone by later calls. -/
theorem isConfirmed_after_append {before : List Call} (later : List Call)
    (h : (after before).IsConfirmed id) : (after (before ++ later)).IsConfirmed id := by
  obtain ⟨call, hmem, hconfirms⟩ := ((tells_after before).confirmed id).1 h
  exact ((tells_after _).confirmed id).2 ⟨call, List.mem_append_left _ hmem, hconfirms⟩

/-- An identity that some call was about is not forgotten. -/
theorem tracks_after (hmem : call ∈ calls) (hsubject : call.subject? = some id) :
    (after calls).Tracks id := by
  have htells := tells_after calls
  by_cases hc : (after calls).IsConfirmed id
  · exact Or.inr hc
  · left
    cases call with
    | markPending now p =>
      cases hsubject
      -- this call alone makes a record, whatever others add to it
      have hout : (now, p) ∈ handOuts p.id calls :=
        List.mem_filterMap.2 ⟨_, hmem, if_pos rfl⟩
      have hsome : Outstanding.ofHandOuts? (handOuts p.id calls) ≠ none :=
        fun hnone => List.ne_nil_of_mem hout (Outstanding.ofHandOuts?_eq_none_iff.1 hnone)
      obtain ⟨r, hr⟩ := Option.ne_none_iff_exists'.1 hsome
      refine isPending_iff.2 ⟨r, ?_⟩
      rw [htells.pending, if_neg hc, hr]
    | confirm p => exact absurd ((htells.confirmed id).2 ⟨_, hmem, Option.some.inj hsubject⟩) hc
    | overdue now threshold => cases hsubject

/-- A record is what the calls that handed its identity out add up to. -/
theorem eq_of_get?_after {r : Outstanding} (hr : (after calls).pending.get? id = some r) :
    (handOuts id calls).head?.map Prod.snd = some r.projectable ∧
      (handOuts id calls).getLast?.map Prod.fst = some r.since ∧
      r.attempts = .ofNat (handOuts id calls).length := by
  rw [(tells_after calls).pending] at hr
  split at hr
  · cases hr
  · exact Outstanding.eq_of_ofHandOuts? hr

/-! ### One way -/

/-- A list without repetitions has as many members as places. -/
theorem encard_setOf_mem {α : Type} {l : List α} (h : l.Nodup) :
    {a | a ∈ l}.encard = l.length := by
  classical
  rw [← List.coe_toFinset, Set.encard_coe_eq_coe_finsetCard, List.toFinset_card_of_nodup h]

/-- With these calls, every identity has gone one way only. -/
structure OneWay (calls : List Call) : Prop where
  apart : ∀ id, ¬ ((after calls).IsPending id ∧ (after calls).IsConfirmed id)
  /-- What is confirmed stays confirmed. -/
  final : ∀ before later, calls = before ++ later → ∀ id,
    (after before).IsConfirmed id → (after calls).IsConfirmed id
  /-- Handing out what is confirmed changes nothing. -/
  ignored : ∀ before now p later, calls = before ++ .markPending now p :: later →
    (after before).IsConfirmed p.id → after (before ++ [.markPending now p]) = after before
  /-- What some call was about is pending or confirmed. -/
  tracked : ∀ call ∈ calls, ∀ id, call.subject? = some id → (after calls).Tracks id
  /-- A call changes nothing about identities that it is not about. -/
  others : ∀ before call later id, calls = before ++ call :: later → call.subject? ≠ some id →
    (after (before ++ [call])).pending.get? id = (after before).pending.get? id ∧
      ((after (before ++ [call])).IsConfirmed id ↔ (after before).IsConfirmed id)
  /-- A record has the projectable of the first call that handed it out and the time of the last
  one. -/
  record : ∀ id r, (after calls).pending.get? id = some r →
    (handOuts id calls).head?.map Prod.snd = some r.projectable ∧
      (handOuts id calls).getLast?.map Prod.fst = some r.since
  /-- It counts these calls, and starts anew at 2^32. -/
  attempts : ∀ id r, (after calls).pending.get? id = some r →
    r.attempts = .ofNat (handOuts id calls).length ∧
      ((handOuts id calls).length < Nat.pow 2 32 →
        r.attempts.toNat = (handOuts id calls).length)
  pendingCount : {id | (after calls).IsPending id}.encard = (after calls).pendingCount
  confirmedCount : {id | (after calls).IsConfirmed id}.encard = (after calls).confirmedCount
  /-- To ask what is overdue changes nothing. -/
  asked : ∀ before now threshold later, calls = before ++ .overdue now threshold :: later →
    after (before ++ [.overdue now threshold]) = after before

/-- **An identity is handed out, then confirmed, and that is final**, whoever calls in whatever
order and whatever the clock shows. -/
theorem oneWay_after (calls : List Call) : OneWay calls where
  apart id := by
    rintro ⟨hpending, hconfirmed⟩
    obtain ⟨r, hr⟩ := isPending_iff.1 hpending
    rw [(tells_after calls).pending, if_pos hconfirmed] at hr
    cases hr
  final before later h id hid := h ▸ isConfirmed_after_append later hid
  ignored before now p later _ hp := by
    rw [after_concat]
    exact markPending_of_isConfirmed now hp
  tracked call hmem id hsubject := tracks_after hmem hsubject
  others before call later id _ hsubject := by
    rw [after_concat]
    exact make_of_subject?_ne _ hsubject
  record id r hr :=
    have h := eq_of_get?_after hr
    ⟨h.1, h.2.1⟩
  attempts id r hr := by
    obtain ⟨-, -, hcount⟩ := eq_of_get?_after hr
    refine ⟨hcount, fun hfew => ?_⟩
    rw [hcount]
    exact UInt32.toNat_ofNat_of_lt' hfew
  pendingCount := by
    rw [Confirmations.pendingCount, ← Table.length_keys]
    exact encard_setOf_mem (after calls).pending.nodup
  confirmedCount := encard_setOf_mem (tells_after calls).nodup
  asked before now threshold later _ := after_concat ..

end Confirmations

end EventJournal
