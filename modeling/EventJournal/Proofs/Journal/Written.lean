/-
EventJournal/Proofs/Journal/Written.lean

Which of several streams were ever written.

Who asks for several streams at once is told which of them are missing.  The journal decides
that by the version: a stream of version zero is missing.  It is right because no stream is
known without an entry.  An append that succeeds commits at least one, and nothing else makes a
stream known or touches its version, so the version is positive from the first successful
append on, whatever becomes of the stream (`version_run_pos_iff`).  A stream without a name is
missing like any other to which every append was refused.

A request is answered stream by stream (`histories_concat`).  The order of the request and the
streams that it names twice are kept for that reason.

Main result: after every history, a request is split into the streams that were written and the
others, and succeeds if there are no others (`splits_run`).
-/
import EventJournal.Proofs.Journal.Concurrency
import Mathlib.Data.List.Induction

namespace EventJournal

/-! ### Answers -/

namespace StreamHistories

/-- The answer to a request that names one more stream, of which this is the history. -/
def add (b : StreamHistories) (s : StreamHistory) : StreamHistories :=
  if s.streamVersion = 0 then { b with missing := b.missing ++ [s.stream] }
  else { b with found := b.found ++ [s] }

variable {b : StreamHistories}

theorem result_eq_ok_iff {ss : List StreamHistory} :
    b.result = .ok ss ↔ b.missing = [] ∧ ss = b.found := by
  unfold result
  split
  · rename_i hnone
    rw [Except.ok.injEq, and_iff_right hnone, eq_comm]
  · rename_i hsome
    exact iff_of_false (fun h => by cases h) fun h => hsome h.1

theorem result_eq_error_iff {e : JournalError} :
    b.result = .error e ↔ b.missing ≠ [] ∧ e = .notAllFound b.missing := by
  unfold result
  split
  · rename_i hnone
    exact iff_of_false (fun h => by cases h) fun h => h.1 hnone
  · rename_i hsome
    rw [Except.error.injEq, and_iff_right hsome, eq_comm]

end StreamHistories

/-! ### Writers -/

instance (x : Exchange) (id : StreamId) : Decidable (x.Commits id) :=
  decidable_of_iff (∃ c ∈ x.commit?, c.1.stream = id)
    ⟨fun ⟨c, hc, hid⟩ => ⟨c.1, c.2, hc, hid⟩, fun ⟨a, r, hc, hid⟩ => ⟨(a, r), hc, hid⟩⟩

/-- One of the deeds is an append to the stream that succeeded. -/
def Wrote (ds : List Deed) (id : StreamId) : Prop := ∃ d ∈ ds, (Exchange.operated d).Commits id

instance (ds : List Deed) (id : StreamId) : Decidable (Wrote ds id) :=
  inferInstanceAs (Decidable (∃ d ∈ ds, (Exchange.operated d).Commits id))

theorem not_wrote_nil (id : StreamId) : ¬ Wrote [] id := by
  rintro ⟨d, hd, -⟩
  cases hd

/-- A stream was written by the first deed or by a later one. -/
theorem wrote_cons_iff {d : Deed} {ds : List Deed} {id : StreamId} :
    Wrote (d :: ds) id ↔ (Exchange.operated d).Commits id ∨ Wrote ds id :=
  List.exists_mem_cons_iff ..

namespace Journal

/-! ### Versions -/

/-- An operation makes the version of a stream positive only by writing it, and never takes that
back. -/
theorem version_perform_pos_iff (op : Operation) (j : Journal) (id : StreamId) :
    0 < (op.perform j).2.version id ↔
      0 < j.version id ∨ (Exchange.operated (op.deed j)).Commits id := by
  by_cases h : (Exchange.operated (op.deed j)).Commits id
  · have hlt : j.version id < (op.perform j).2.version id :=
      Call.version_lt_make (c := .operate op) h
    exact iff_of_true (Nat.zero_lt_of_lt hlt) (.inr h)
  · have hsame : (op.perform j).2.version id = j.version id :=
      Call.version_of_not_commits (c := .operate op) h
    rw [hsame, or_iff_left h]

/-- A history does so by one of its deeds, by induction on the operations. -/
theorem version_run_pos_iff (ops : List Operation) (j : Journal) (id : StreamId) :
    0 < (Operation.run ops j).version id ↔
      0 < j.version id ∨ Wrote (Operation.deeds ops j) id := by
  induction ops generalizing j with
  | nil => exact (or_iff_left (not_wrote_nil id)).symm
  | cons op rest ih =>
    rw [Operation.run_cons, Operation.deeds_cons, ih, version_perform_pos_iff, wrote_cons_iff,
      or_assoc]

/-- At the start no stream has a version, so the deeds alone count. -/
theorem version_run_empty_pos_iff (stamps : Nat → Stamp) (ops : List Operation) (id : StreamId) :
    0 < (Operation.run ops (.empty stamps)).version id ↔
      Wrote (Operation.deeds ops (.empty stamps)) id := by
  rw [version_run_pos_iff]
  exact or_iff_right (Nat.lt_irrefl 0)

/-! ### Requests -/

theorem streamVersion_history (j : Journal) (id : StreamId) :
    (j.history id).streamVersion = j.version id := by
  rw [history_eq]

/-- A reader is shown the stream that was asked for. -/
theorem stream_history (j : Journal) (id : StreamId) : (j.history id).stream = id := by
  rw [history_eq]

/-- One more stream is found or missing behind those before it. -/
theorem histories_concat (j : Journal) (ids : List StreamId) (id : StreamId) :
    j.histories (ids ++ [id]) = (j.histories ids).add (j.history id) := by
  unfold histories StreamHistories.add
  rw [stream_history]
  by_cases h : (j.history id).streamVersion = 0 <;> simp [h]

/-- The streams of a request are read one after the other, by induction from its end. -/
theorem histories_eq_foldl (j : Journal) (ids : List StreamId) :
    j.histories ids = ids.foldl (fun b id => b.add (j.history id)) ⟨[], []⟩ := by
  induction ids using List.reverseRecOn with
  | nil => rfl
  | append_singleton ids id ih => rw [List.foldl_concat, ← ih, histories_concat]

section

variable {j : Journal} {p : StreamId → Prop} [DecidablePred p]

/-- Streams are found by their versions, wherever these come from. -/
theorem found_histories (h : ∀ id, 0 < j.version id ↔ p id) (ids : List StreamId) :
    (j.histories ids).found = (ids.filter fun id => p id).map j.history := by
  have hfound : ∀ id, decide ((j.history id).streamVersion ≠ 0) = decide (p id) := by
    intro id
    rw [streamVersion_history, decide_eq_decide, ← h id, Nat.pos_iff_ne_zero]
  show (ids.map j.history).filter _ = _
  rw [List.filter_map]
  exact congrArg (List.map j.history) (List.filter_congr fun id _ => hfound id)

/-- The others are missing, likewise. -/
theorem missing_histories (h : ∀ id, 0 < j.version id ↔ p id) (ids : List StreamId) :
    (j.histories ids).missing = ids.filter fun id => ¬ p id := by
  refine List.filter_congr fun id _ => ?_
  rw [streamVersion_history, decide_eq_decide, ← h id, Nat.not_lt, Nat.le_zero]

end

/-- What a journal answers to a request for several streams, told from the deeds that made it. -/
structure Splits (j : Journal) (ds : List Deed) (ids : List StreamId) : Prop where
  /-- The written streams are found in the order of the request, as often as it names them, and
  as a reader of one stream is shown them. -/
  found : (j.histories ids).found = (ids.filter fun id => Wrote ds id).map j.history
  /-- The other streams are missing, in the order of the request and as often as it names them. -/
  missing : (j.histories ids).missing = ids.filter fun id => ¬ Wrote ds id
  /-- The answer is put together stream by stream. -/
  oneByOne : j.histories ids = ids.foldl (fun b id => b.add (j.history id)) ⟨[], []⟩
  /-- The request succeeds if all of its streams were written; the result is what was found. -/
  ok_iff : ∀ ss, (j.histories ids).result = .ok ss ↔
    (∀ id ∈ ids, Wrote ds id) ∧ ss = (j.histories ids).found
  /-- It fails if one of them was not; the error names those that are missing. -/
  error_iff : ∀ e, (j.histories ids).result = .error e ↔
    (∃ id ∈ ids, ¬ Wrote ds id) ∧ e = .notAllFound (j.histories ids).missing

/-- **A request for several streams is split into those that were written and the others**,
after every history and whatever has become of the streams. -/
theorem splits_run (stamps : Nat → Stamp) (ops : List Operation) (ids : List StreamId) :
    (Operation.run ops (.empty stamps)).Splits (Operation.deeds ops (.empty stamps)) ids := by
  have hwrote := version_run_empty_pos_iff stamps ops
  have hmissing := missing_histories hwrote ids
  -- nothing is missing exactly if all were written
  have hall : ((Operation.run ops (.empty stamps)).histories ids).missing = [] ↔
      ∀ id ∈ ids, Wrote (Operation.deeds ops (.empty stamps)) id := by
    rw [hmissing, List.filter_eq_nil_iff]
    simp only [decide_eq_true_eq, not_not]
  refine ⟨found_histories hwrote ids, hmissing, histories_eq_foldl _ ids, ?_, ?_⟩
  · intro ss
    rw [StreamHistories.result_eq_ok_iff, hall]
  · intro e
    rw [StreamHistories.result_eq_error_iff, ne_eq, hall]
    simp only [not_forall, exists_prop]

/-- Streams are found that are hidden, closed or truncated; no refused request makes one known. -/
example :
    let ops : List Operation :=
      [.append ⟨⟨"a"⟩, .any, [⟨"t", 1, .null⟩], .none, none⟩,
        .append ⟨⟨"b"⟩, .any, [⟨"t", 1, .null⟩], .none, none⟩,
        .append ⟨⟨"c"⟩, .any, [⟨"t", 1, .null⟩], .none, none⟩,
        .softDelete ⟨"a"⟩, .tombstone ⟨"b"⟩, .truncateBefore ⟨"c"⟩ 9,
        .append ⟨⟨"d"⟩, .exact 2, [⟨"t", 1, .null⟩], .none, none⟩, .softDelete ⟨"d"⟩]
    let answer := (Operation.run ops (.empty fun _ => default)).histories
      [⟨"c"⟩, ⟨"d"⟩, ⟨"a"⟩, ⟨""⟩, ⟨"b"⟩, ⟨"a"⟩, ⟨"d"⟩]
    answer.found.map StreamHistory.stream = [⟨"c"⟩, ⟨"a"⟩, ⟨"b"⟩, ⟨"a"⟩] ∧
      answer.missing = [⟨"d"⟩, ⟨""⟩, ⟨"d"⟩] := by
  decide

end Journal

end EventJournal
