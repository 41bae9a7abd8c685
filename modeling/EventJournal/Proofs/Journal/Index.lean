/-
EventJournal/Proofs/Journal/Index.lean

The log of a journal and its index by streams say the same thing, whatever was done to
the journal and whether it succeeded.

`Journal.Indexed` is the invariant, written as equations between lists: the global
positions count the log from zero, the versions count the entries of each stream from
one, and the positions kept for a stream are the places of its entries in the log.  A
commit adds to both sides of each equation; no other operation touches either side.

Main results: a history keeps the invariant (`Indexed.run`), so every reachable journal
has it, and read place by place it is the agreement of log and index (`agrees_run`).
-/
import EventJournal.Proofs.Journal.Commit

namespace EventJournal

namespace Journal

/-! ### Streams within a log -/

/-- The entries of a stream in a log. -/
def entriesIn (log : List Entry) (id : StreamId) : List Entry :=
  log.filter fun e => e.stream = id

/-- The places of the entries of a stream in a log that starts at place `start`. -/
def placesIn (log : List Entry) (start : Nat) (id : StreamId) : List Nat :=
  log.findIdxs (fun e => e.stream = id) start

/-- The entries of a stream are read along the log. -/
theorem entriesIn_append (log more : List Entry) (id : StreamId) :
    entriesIn (log ++ more) id = entriesIn log id ++ entriesIn more id := List.filter_append ..

theorem placesIn_append (log more : List Entry) (start : Nat) (id : StreamId) :
    placesIn (log ++ more) start id
      = placesIn log start id ++ placesIn more (start + log.length) id :=
  List.findIdxs_append

/-- A stream has as many places as entries. -/
theorem length_placesIn (log : List Entry) (start : Nat) (id : StreamId) :
    (placesIn log start id).length = (entriesIn log id).length := by
  rw [placesIn, List.length_findIdxs, entriesIn, List.countP_eq_length_filter]

theorem entriesIn_of_forall {log : List Entry} {id : StreamId} (h : ∀ e ∈ log, e.stream = id) :
    entriesIn log id = log :=
  List.filter_eq_self.2 fun e he => decide_eq_true (h e he)

/-- In a log of one stream every place is one of its places. -/
theorem placesIn_of_forall {log : List Entry} {id : StreamId} (start : Nat)
    (h : ∀ e ∈ log, e.stream = id) : placesIn log start id = List.range' start log.length := by
  induction log generalizing start with
  | nil => rfl
  | cons e rest ih =>
    have hrest := ih (start + 1) fun e' he' => h e' (List.mem_cons_of_mem _ he')
    unfold placesIn at hrest ⊢
    simp [h e List.mem_cons_self, hrest, List.range'_succ]

theorem entriesIn_of_forall_ne {log : List Entry} {id : StreamId}
    (h : ∀ e ∈ log, e.stream ≠ id) : entriesIn log id = [] :=
  List.filter_eq_nil_iff.2 fun e he => by simpa using h e he

theorem placesIn_of_forall_ne {log : List Entry} {id : StreamId} (start : Nat)
    (h : ∀ e ∈ log, e.stream ≠ id) : placesIn log start id = [] :=
  List.findIdxs_eq_nil_iff.2 fun e he => by simpa using h e he

/-- The entry at the `k`-th place of a stream is the `k`-th entry of the stream. -/
theorem getElem?_placesIn {log : List Entry} {id : StreamId} {k i : Nat}
    (h : (placesIn log 0 id)[k]? = some i) : log[i]? = (entriesIn log id)[k]? := by
  obtain ⟨hk, rfl⟩ := List.getElem?_eq_some_iff.1 h
  have hk' : k < (entriesIn log id).length := by rwa [length_placesIn] at hk
  have hget := List.getElem_filter_eq_getElem_getElem_findIdxs hk'
  rw [List.getElem?_eq_getElem hk']
  unfold entriesIn placesIn
  rw [hget]
  exact List.getElem?_eq_getElem _

/-- The places of a stream are where its entries stand. -/
theorem mem_placesIn {log : List Entry} {id : StreamId} {i : Nat} :
    i ∈ placesIn log 0 id ↔ ∃ e, log[i]? = some e ∧ e.stream = id := by
  unfold placesIn
  rw [List.mem_findIdxs_iff_exists_getElem_pos]
  constructor
  · rintro ⟨hi, hp⟩
    exact ⟨log[i], List.getElem?_eq_getElem hi, of_decide_eq_true hp⟩
  · rintro ⟨e, he, hid⟩
    obtain ⟨hi, rfl⟩ := List.getElem?_eq_some_iff.1 he
    exact ⟨hi, decide_eq_true hid⟩

/-- In a list that is numbered from `start` on, the `i`-th entry has number `start + i`. -/
theorem eq_of_map_eq_range' {l : List Entry} {number : Entry → Nat} {start n i : Nat} {e : Entry}
    (h : l.map number = List.range' start n) (he : l[i]? = some e) : number e = start + i := by
  have hmap : (List.range' start n)[i]? = some (number e) := by
    rw [← h, List.getElem?_map, he, Option.map_some]
  -- `start + i` is what `range'` has at this place
  obtain ⟨_, hi⟩ := List.getElem?_eq_some_iff.1 hmap
  rw [← hi, List.getElem_range', Nat.one_mul]

/-! ### The invariant -/

/-- The log is numbered, and the index is that of the log. -/
structure Indexed (j : Journal) : Prop where
  globalPosition : j.log.map Entry.globalPosition = List.range' 0 j.log.length
  streamVersion : ∀ id, (entriesIn j.log id).map Entry.streamVersion
    = List.range' 1 (entriesIn j.log id).length
  positions : ∀ id, (j.recordOf id).positions = placesIn j.log 0 id
  /-- A stream is known only if something was committed to it. -/
  known : ∀ id r, j.streams.get? id = some r → r.positions ≠ []
  wellTyped : ∀ e ∈ j.log, e.stream.name ≠ "" ∧ e.toNew.WellTyped

/-- A known stream has its own record. -/
theorem recordOf_of_get? {j : Journal} {id : StreamId} {r : StreamRecord}
    (h : j.streams.get? id = some r) : j.recordOf id = r := by
  simp [recordOf, Table.getD, h]

/-- Nothing is numbered yet, and no stream is known. -/
theorem indexed_empty (stamps : Nat → Stamp) : (Journal.empty stamps).Indexed where
  globalPosition := rfl
  streamVersion _ := rfl
  positions _ := rfl
  known _ _ h := by cases h
  wellTyped _ h := by cases h

namespace Indexed

variable {j : Journal}

/-- The version of a stream counts its entries. -/
theorem version_eq (h : j.Indexed) (id : StreamId) :
    j.version id = (entriesIn j.log id).length := by
  rw [version, StreamRecord.version, h.positions id, length_placesIn]

/-- Replacing a record of a known stream by one with the same positions keeps the invariant. -/
theorem setRecord (h : j.Indexed) {id : StreamId} {r r' : StreamRecord}
    (hr : j.streams.get? id = some r) (hpos : r'.positions = r.positions) :
    (j.setRecord id r').Indexed where
  globalPosition := h.globalPosition
  streamVersion := h.streamVersion
  positions id' := by
    rw [recordOf_setRecord, log_setRecord]
    split
    · rename_i hid
      rw [hid, ← h.positions id, recordOf_of_get? hr, hpos]
    · exact h.positions id'
  known id' r'' hr'' := by
    rw [streams_setRecord, Table.get?_insert] at hr''
    split at hr''
    · cases hr''
      rw [hpos]
      exact h.known id r hr
    · exact h.known id' r'' hr''
  wellTyped := h.wellTyped

/-- Committing a well-formed request keeps the invariant. -/
theorem of_commits (h : j.Indexed) {a : Append} {r : AppendResult} {j' : Journal}
    (hwf : a.WellFormed) (hc : j.Commits a r j') : j'.Indexed := by
  have hlen : r.entries.length = a.entries.length := by
    rw [← hc.toNew, List.length_map]
  refine ⟨?_, ?_, ?_, ?_, ?_⟩
  · rw [hc.log, List.map_append, h.globalPosition, hc.globalPosition, List.length_append, hlen]
    rw [← Nat.zero_add j.length]
    -- global positions go on where the log ended
    exact List.range'_append_1
  · intro id
    rw [hc.log, entriesIn_append, List.map_append, h.streamVersion]
    -- all new entries belong to the stream of the request, none to any other
    by_cases hid : id = a.stream
    · subst hid
      rw [entriesIn_of_forall hc.stream, hc.streamVersion, h.version_eq, List.length_append, hlen,
        Nat.add_comm _ 1]
      exact List.range'_append_1
    · have hne : ∀ e ∈ r.entries, e.stream ≠ id := fun e he => hc.stream e he ▸ Ne.symm hid
      simp [entriesIn_of_forall_ne hne]
  · intro id
    rw [hc.log, placesIn_append, ← h.positions]
    by_cases hid : id = a.stream
    · subst hid
      -- the new places follow the old ones, as the new entries follow the old log
      rw [recordOf_of_get? hc.record, placesIn_of_forall _ hc.stream, hlen, Nat.zero_add]
      rfl
    · have hne : ∀ e ∈ r.entries, e.stream ≠ id := fun e he => hc.stream e he ▸ Ne.symm hid
      rw [placesIn_of_forall_ne _ hne, List.append_nil]
      simp [recordOf, Table.getD, hc.others id hid]
  · intro id r' hr'
    by_cases hid : id = a.stream
    · subst hid
      have hne : a.entries.length ≠ 0 := by simpa using hwf.2.1
      rw [← Option.some.inj (hc.record.symm.trans hr')]
      simp [hne]
    · rw [hc.others id hid] at hr'
      exact h.known id r' hr'
  · intro e he
    rw [hc.log, List.mem_append] at he
    rcases he with he | he
    · exact h.wellTyped e he
    · rw [hc.stream e he]
      refine ⟨hwf.1, hwf.2.2 _ ?_⟩
      rw [← hc.toNew]
      exact List.mem_map_of_mem he

/-! ### Steps and runs -/

/-- An append is refused, or it commits a well-formed request. -/
theorem append (h : j.Indexed) (a : Append) : (j.append a).2.Indexed := by
  rcases append_cases j a with ⟨e, -, happ⟩ | ⟨hwf, href, happ⟩
  · rwa [happ]
  · rw [happ]
    exact h.of_commits hwf (commits_commit (refusal?_eq_none_iff.1 href).1)

/-- Changing a record without its positions keeps the invariant. -/
theorem update (h : j.Indexed) {id : StreamId}
    {change : StreamRecord → Except JournalError StreamRecord}
    (hpos : ∀ r r', change r = .ok r' → r'.positions = r.positions) :
    (j.update id change).2.Indexed := by
  rcases update_cases j id change with ⟨e, hu⟩ | ⟨r, r', hr, hr', hu⟩
  · rwa [hu]
  · rw [hu]
    exact h.setRecord hr (hpos r r' hr')

/-- No operation breaks the invariant, whether or not it succeeds. -/
theorem perform (h : j.Indexed) (op : Operation) : (op.perform j).2.Indexed := by
  cases op with
  | append a => exact h.append a
  | tombstone id =>
    refine h.update fun r r' hr => ?_
    split at hr
    · cases hr
    · cases hr
      rfl
  | softDelete id =>
    refine h.update fun r r' hr => ?_
    split at hr
    · cases hr
      rfl
    · cases hr
  | truncateBefore id v =>
    refine h.update fun r r' hr => ?_
    split at hr
    · cases hr
    · cases hr
      rfl

/-- A history keeps the invariant, by induction on the operations. -/
theorem run (h : j.Indexed) (ops : List Operation) : (Operation.run ops j).Indexed := by
  induction ops generalizing j with
  | nil => exact h
  | cons op rest ih => exact ih (h.perform op)

end Indexed

/-- Every journal that can come about satisfies the invariant. -/
theorem Reachable.indexed {j : Journal} (h : j.Reachable) : j.Indexed := by
  obtain ⟨stamps, ops, rfl⟩ := h
  exact (indexed_empty stamps).run ops

/-! ### Place by place -/

/-- The log and the index agree, place by place. -/
structure Agrees (j : Journal) : Prop where
  /-- Each entry stands in the log where its global position says. -/
  globalPosition : ∀ (i : Nat) (e : Entry), j.log[i]? = some e → e.globalPosition = i
  positions_ne_nil : ∀ id r, j.streams.get? id = some r → r.positions ≠ []
  ascending : ∀ id r, j.streams.get? id = some r → r.positions.Pairwise (· < ·)
  inside : ∀ id r, j.streams.get? id = some r → ∀ i ∈ r.positions, i < j.log.length
  /-- The `k`-th position of a stream is that of its entry of version `k + 1`. -/
  entry : ∀ id r, j.streams.get? id = some r → ∀ k i, r.positions[k]? = some i →
    ∃ e, j.log[i]? = some e ∧ e.stream = id ∧ e.streamVersion = k + 1
  /-- Each place of the log is a position of one stream, that of the entry there. -/
  owner : ∀ i e, j.log[i]? = some e → ∀ id,
    (∃ r, j.streams.get? id = some r ∧ i ∈ r.positions) ↔ id = e.stream
  wellTyped : ∀ e ∈ j.log, e.stream.name ≠ "" ∧ e.entryType ≠ "" ∧ 1 ≤ e.typeVersion

namespace Indexed

variable {j : Journal}

theorem globalPosition_eq (h : j.Indexed) {i : Nat} {e : Entry} (he : j.log[i]? = some e) :
    e.globalPosition = i := by
  rw [eq_of_map_eq_range' h.globalPosition he, Nat.zero_add]

theorem streamVersion_eq (h : j.Indexed) {id : StreamId} {k : Nat} {e : Entry}
    (he : (entriesIn j.log id)[k]? = some e) : e.stream = id ∧ e.streamVersion = k + 1 := by
  refine ⟨of_decide_eq_true (List.mem_filter.1 (List.mem_of_getElem? he)).2, ?_⟩
  rw [eq_of_map_eq_range' (h.streamVersion id) he, Nat.add_comm]

/-- The positions of a known stream are its places in the log. -/
theorem positions_eq (h : j.Indexed) {id : StreamId} {r : StreamRecord}
    (hr : j.streams.get? id = some r) : r.positions = placesIn j.log 0 id := by
  rw [← h.positions id, recordOf_of_get? hr]

/-- A stream with an entry in the log is known. -/
theorem exists_get? (h : j.Indexed) {i : Nat} {id : StreamId} (hi : i ∈ placesIn j.log 0 id) :
    ∃ r, j.streams.get? id = some r := by
  cases hr : j.streams.get? id with
  | some r => exact ⟨r, rfl⟩
  | none =>
    have hnil : (j.recordOf id).positions = [] := by simp [recordOf, Table.getD, hr]
    rw [← h.positions id, hnil] at hi
    cases hi

/-- Read place by place, the equations of the invariant say that log and index agree. -/
theorem agrees (h : j.Indexed) : j.Agrees where
  globalPosition _ _ he := h.globalPosition_eq he
  positions_ne_nil := h.known
  ascending id r hr := by
    rw [h.positions_eq hr]
    exact List.pairwise_findIdxs
  inside id r hr i hi := by
    rw [h.positions_eq hr] at hi
    obtain ⟨e, he, -⟩ := mem_placesIn.1 hi
    exact (List.getElem?_eq_some_iff.1 he).1
  entry id r hr k i hk := by
    rw [h.positions_eq hr] at hk
    obtain ⟨e, he, -⟩ := mem_placesIn.1 (List.mem_of_getElem? hk)
    -- the `k`-th place holds the `k`-th entry of the stream
    have hke : (entriesIn j.log id)[k]? = some e := by rw [← getElem?_placesIn hk, he]
    exact ⟨e, he, h.streamVersion_eq hke⟩
  owner i e he id := by
    constructor
    · rintro ⟨r, hr, hi⟩
      rw [h.positions_eq hr] at hi
      obtain ⟨e', he', hid⟩ := mem_placesIn.1 hi
      rw [← hid, Option.some.inj (he'.symm.trans he)]
    · rintro rfl
      have hi : i ∈ placesIn j.log 0 e.stream := mem_placesIn.2 ⟨e, he, rfl⟩
      obtain ⟨r, hr⟩ := h.exists_get? hi
      exact ⟨r, hr, by rwa [h.positions_eq hr]⟩
  wellTyped := h.wellTyped

end Indexed

/-- **The log and the index agree after every history**, whichever of its operations
succeeded. -/
theorem agrees_run (stamps : Nat → Stamp) (ops : List Operation) :
    (Operation.run ops (.empty stamps)).Agrees :=
  ((indexed_empty stamps).run ops).agrees

end Journal

end EventJournal
