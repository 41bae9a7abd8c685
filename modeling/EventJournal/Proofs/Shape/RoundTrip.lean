/-
EventJournal/Proofs/Shape/RoundTrip.lean

Everything the library writes as JSON is read back.

For each type there is a range, the numbers that its fields can hold, and a lemma that its
reader and writer are inverse on it (`inverts`); a type that contains others uses theirs.
The only value in range that is not read back is a projectable whose state is null: in a
column that may be absent, null is absence.  No reader gives such a value, so it does not
come up again once it was read.

Main result: `readsBack`.
-/
import EventJournal.Dispatch.Config
import EventJournal.Projectable
import EventJournal.Proofs.Shape.Record
import EventJournal.Proofs.Timestamp
import EventJournal.Proofs.Uuid
import EventJournal.Stream.ExpectedVersion
import EventJournal.Stream.View
import EventJournal.Supervision.Decision

namespace EventJournal

open Shape

/-! ### Names and texts -/

theorem inverts_str : Inverts Shape.read Json.str fun _ => True :=
  ⟨fun _ => rfl, fun _ => trivial⟩

theorem StreamId.inverts : Inverts Shape.read (Shape.write : StreamId → Json) fun _ => True :=
  ⟨fun _ => rfl, fun _ => trivial⟩

theorem StreamStatus.inverts :
    Inverts Shape.read (Shape.write : StreamStatus → Json) fun _ => True :=
  inverts_tag named?_name

theorem Backoff.inverts : Inverts Shape.read (Shape.write : Backoff → Json) fun _ => True :=
  inverts_tag named?_name

theorem Strategy.inverts : Inverts Shape.read (Shape.write : Strategy → Json) fun _ => True :=
  inverts_tag named?_name

theorem Uuid.read_write (u : Uuid) : Shape.read (Shape.write u) = some u := by
  simp only [Shape.read, Shape.write, Json.str?, Option.bind_some, String.toList_ofList,
    parse?_text]

theorem Timestamp.read_write (t : Timestamp) : Shape.read (Shape.write t) = some t := by
  simp only [Shape.read, Shape.write, Json.str?, Option.bind_some, String.toList_ofList,
    parse?_text]

/-! ### Expectations -/

namespace ExpectedVersion

/-- An exact version is a number of 64 bits. -/
def InRange : ExpectedVersion → Prop
  | exact v => v < Nat.pow 2 64
  | _ => True

/-- The expectations that go by a name carry no number. -/
theorem inRange_of_named {s : String} {e : ExpectedVersion} (h : named? s = some e) :
    e.InRange := by
  unfold named? at h
  split at h <;> cases h <;> trivial

theorem inverts : Inverts Shape.read toJson InRange where
  read_write {e} h := by
    cases e with
    | exact v =>
      change ((Json.nat v).nat? 64).map exact = some (exact v)
      rw [Json.nat?_nat h, Option.map_some]
    | _ => rfl
  inRange {j e} h := by
    change ofJson? j = some e at h
    unfold ofJson? at h
    split at h
    · obtain ⟨v, hv, rfl⟩ := Option.map_eq_some_iff.1 h
      exact (Json.nat?_eq_some hv).2
    · unfold tag? at h
      split at h
      · exact inRange_of_named h
      · exact inRange_of_named h
      · cases h

end ExpectedVersion

/-! ### Spans of time -/

namespace Duration

/-- A span is put together from its seconds and the rest. -/
theorem ofParts?_secs_subsecNanos (d : Duration) : ofParts? d.secs d.subsecNanos = some d := by
  unfold ofParts?
  simp only [secs_mul_add_subsecNanos, dif_pos d.le_limit]

/-- A span is read from its parts. -/
theorem ofJson?_record {secs nanos : Nat} (hsecs : secs < Nat.pow 2 64)
    (hnanos : nanos < Nat.pow 2 32) :
    ofJson? (record fieldNames [Json.nat secs, Json.nat nanos]) = ofParts? secs nanos := by
  -- unlike a record, a span refuses fields of other names
  have hown : onlyOwnFields (record fieldNames [Json.nat secs, Json.nat nanos]) := rfl
  unfold ofJson?
  rw [hown, columns_record rfl (by decide)]
  change ((Json.nat? 64 (Json.nat secs)).bind fun secs =>
    (Json.nat? 32 (Json.nat nanos)).bind fun nanos => ofParts? secs nanos) = ofParts? secs nanos
  rw [Json.nat?_nat hsecs, Option.bind_some, Json.nat?_nat hnanos, Option.bind_some]

theorem inverts : Inverts Shape.read toJson fun _ => True where
  read_write {d} _ := by
    have hnanos : d.subsecNanos < Nat.pow 2 32 := d.subsecNanos_lt.trans (by decide)
    exact (ofJson?_record d.secs_lt hnanos).trans d.ofParts?_secs_subsecNanos
  inRange _ := trivial

theorem toJson_ne_null (d : Duration) : d.toJson ≠ .null := nofun

end Duration

/-! ### Entries -/

namespace Properties

/-- A name behind all others goes to the end. -/
theorem setRow_of_lt {name value : String} {l : List (String × String)}
    (h : ∀ r ∈ l, r.1 < name) : setRow name value l = l ++ [(name, value)] := by
  induction l with
  | nil => rfl
  | cons r l ih =>
    obtain ⟨hr, hl⟩ := List.forall_mem_cons.1 h
    -- the name of this row is smaller, so neither the row is replaced nor a new one put before it
    -- by induction the name goes behind the other rows as well
    rw [setRow, if_neg (String.lt_asymm hr), if_pos hr, ih hl, List.cons_append]

/-- Rows in ascending order are put behind those that are there, one after the other. -/
theorem foldlM_insert (p : Properties) {rows : List (String × String)}
    (h : (p.rows ++ rows).Pairwise fun a b => a.1 < b.1) :
    (rows.map fun r => (r.1, Json.str r.2)).foldlM
      (fun p f => f.2.str?.map (p.insert f.1)) p = some ⟨p.rows ++ rows, h⟩ := by
  induction rows generalizing p with
  | nil => simp
  | cons r rows ih =>
    have hlast : ∀ s ∈ p.rows, s.1 < r.1 := fun s hs =>
      (List.pairwise_append.1 h).2.2 s hs r List.mem_cons_self
    -- the first of the new names is behind all that are there
    have hrows : (p.insert r.1 r.2).rows = p.rows ++ [r] := setRow_of_lt hlast
    have happend : (p.insert r.1 r.2).rows ++ rows = p.rows ++ r :: rows := by
      rw [hrows, List.append_assoc, List.singleton_append]
    rw [List.map_cons, List.foldlM_cons, Json.str?, Option.map_some, Option.bind_eq_bind,
      Option.bind_some, ih _ (happend ▸ h)]
    simp only [happend]

theorem inverts : Inverts Shape.read toJson fun _ => True where
  read_write {p} _ := foldlM_insert empty p.ascending
  inRange _ := trivial

end Properties

theorem Metadata.inverts : Inverts Shape.read toJson fun _ => True := by
  refine inverts_record (by decide) (fun _ => rfl) ?written fun _ => trivial
  intro m _
  simp [Properties.inverts.read_write trivial]

namespace NewEntry

/-- The version of the type is a number of 32 bits. -/
def InRange (e : NewEntry) : Prop := e.typeVersion < Nat.pow 2 32

theorem inverts : Inverts Shape.read toJson InRange := by
  refine inverts_record (by decide) (fun _ => rfl) ?written ?read
  case written =>
    intro e h
    simp [Json.nat?_nat h]
  case read =>
    intro cs e h
    split at h
    · simp only [Option.bind_eq_bind, Option.bind_eq_some_iff, Option.pure_def,
        Option.some.injEq] at h
      obtain ⟨_, -, n, hn, _, -, rfl⟩ := h
      exact lt_of_required hn
    · cases h

end NewEntry

namespace Entry

/-- The version of the type has 32 bits, the places in the stream and the journal 64. -/
def InRange (e : Entry) : Prop :=
  e.typeVersion < Nat.pow 2 32 ∧ e.streamVersion < Nat.pow 2 64 ∧
    e.globalPosition < Nat.pow 2 64

theorem inverts : Inverts Shape.read toJson InRange := by
  refine inverts_record (by decide) (fun _ => rfl) ?written ?read
  case written =>
    rintro e ⟨htype, hstream, hglobal⟩
    -- each column is read back by the lemma of its own type
    simp [Json.nat?_nat htype, Json.nat?_nat hstream, Json.nat?_nat hglobal, Uuid.read_write,
      Timestamp.read_write, StreamId.inverts.read_write trivial,
      Metadata.inverts.read_write trivial]
  case read =>
    intro cs e h
    split at h
    · simp only [Option.bind_eq_bind, Option.bind_eq_some_iff, Option.pure_def,
        Option.some.injEq] at h
      obtain ⟨_, -, _, -, _, -, _, -, n, hn, _, -, v, hv, p, hp, _, -, rfl⟩ := h
      exact ⟨lt_of_required hn, lt_of_required hv, lt_of_required hp⟩
    · cases h

end Entry

namespace Snapshot

/-- The version is a number of 64 bits. -/
def InRange (s : Snapshot) : Prop := s.version < Nat.pow 2 64

theorem inverts : Inverts Shape.read toJson InRange := by
  refine inverts_record (by decide) (fun _ => rfl) ?written ?read
  case written =>
    intro s h
    simp [Json.nat?_nat h]
  case read =>
    intro cs v h
    split at h
    · simp only [Option.bind_eq_bind, Option.bind_eq_some_iff, Option.pure_def,
        Option.some.injEq] at h
      obtain ⟨n, hn, _, -, rfl⟩ := h
      exact lt_of_required hn
    · cases h

end Snapshot

theorem Snapshot.toJson_ne_null (s : Snapshot) : s.toJson ≠ .null := nofun

/-! ### What readers of a stream see -/

namespace StreamHistory

/-- The version is a number of 64 bits, and the entries and the snapshot are in range. -/
def InRange (s : StreamHistory) : Prop :=
  s.streamVersion < Nat.pow 2 64 ∧ (∀ e ∈ s.entries, e.InRange) ∧ ∀ t ∈ s.snapshot, t.InRange

theorem inverts : Inverts Shape.read toJson InRange := by
  refine inverts_record (by decide) (fun _ => rfl) ?written ?read
  case written =>
    rintro s ⟨hversion, hentries, hsnapshot⟩
    simp [Json.nat?_nat hversion, Entry.inverts.list?_map hentries, Json.bool?,
      StreamId.inverts.read_write trivial,
      Snapshot.inverts.optional_orNull fun t ht => ⟨hsnapshot t ht, t.toJson_ne_null⟩]
  case read =>
    intro cs v h
    split at h
    · simp only [Option.bind_eq_bind, Option.bind_eq_some_iff, Option.pure_def,
        Option.some.injEq] at h
      obtain ⟨_, -, n, hn, es, hes, t, ht, _, -, _, -, rfl⟩ := h
      exact ⟨lt_of_required hn, Entry.inverts.inRange_of_list hes,
        Snapshot.inverts.inRange_of_optional ht⟩
    · cases h

end StreamHistory

namespace StreamSummary

/-- Versions, horizon and count are numbers of 64 bits. -/
def InRange (i : StreamSummary) : Prop :=
  i.currentVersion < Nat.pow 2 64 ∧ i.truncateBefore < Nat.pow 2 64 ∧
    i.visibleEntryCount < Nat.pow 2 64

theorem inverts : Inverts Shape.read toJson InRange := by
  refine inverts_record (by decide) (fun _ => rfl) ?written ?read
  case written =>
    rintro i ⟨hversion, hhorizon, hcount⟩
    simp [Json.nat?_nat hversion, Json.nat?_nat hhorizon, Json.nat?_nat hcount, Json.bool?,
      StreamId.inverts.read_write trivial, StreamStatus.inverts.read_write trivial]
  case read =>
    intro cs v h
    split at h
    · simp only [Option.bind_eq_bind, Option.bind_eq_some_iff, Option.pure_def,
        Option.some.injEq] at h
      obtain ⟨_, -, _, -, n, hn, _, -, b, hb, c, hc, rfl⟩ := h
      exact ⟨lt_of_required hn, lt_of_required hb, lt_of_required hc⟩
    · cases h

end StreamSummary

/-! ### Units of work -/

namespace ProjectableId

/-- The version is a number of 64 bits. -/
def InRange (id : ProjectableId) : Prop := id.dataVersion < Nat.pow 2 64

theorem inverts : Inverts Shape.read toJson InRange := by
  refine inverts_record (by decide) (fun _ => rfl) ?written ?read
  case written =>
    intro id h
    simp [Json.nat?_nat h]
  case read =>
    intro cs v h
    split at h
    · simp only [Option.bind_eq_bind, Option.bind_eq_some_iff, Option.pure_def,
        Option.some.injEq] at h
      obtain ⟨_, -, _, -, n, hn, rfl⟩ := h
      exact lt_of_required hn
    · cases h

end ProjectableId

namespace Projectable

/-- The version of the identity is a number of 64 bits, and the entries are in range. -/
def InRange (p : Projectable) : Prop := p.id.InRange ∧ ∀ e ∈ p.entries, e.InRange

/-- The state that is read back: null counts as absent. -/
def keptState (p : Projectable) : Option Json := p.state.filter fun j => j ≠ Json.null

/-- Any state but null is kept. -/
theorem keptState_of_ne {p : Projectable} (h : p.state ≠ some .null) :
    p.keptState = p.state := by
  unfold keptState
  cases hstate : p.state with
  | none => rfl
  | some j =>
    have hj : j ≠ .null := fun e => h (hstate.trans (congrArg some e))
    exact if_pos (decide_eq_true hj)

/-- A column that holds null and one that is missing are read alike. -/
theorem optional_keptState (p : Projectable) :
    optional Shape.read (some (p.state.getD .null)) = some p.keptState := by
  unfold keptState
  cases p.state with
  | none => rfl
  | some j => cases j <;> rfl

/-- A projectable is read back but for a state that is null. -/
theorem read_toJson {p : Projectable} (h : p.InRange) :
    Shape.read p.toJson = some { p with state := p.keptState } := by
  obtain ⟨hid, hentries⟩ := h
  change ofJson? p.toJson = _
  unfold ofJson? toJson
  rw [columns_record rfl (by decide)]
  simp [ProjectableId.inverts.read_write hid, Entry.inverts.list?_map hentries,
    optional_keptState, inverts_str.list?_map fun _ _ => trivial]

theorem inverts : Inverts Shape.read toJson fun p => p.InRange ∧ p.state ≠ some .null where
  read_write {p} h := by
    rw [read_toJson h.1, keptState_of_ne h.2]
  inRange {j p} h := by
    obtain ⟨cs, -, h⟩ := Option.bind_eq_some_iff.1 h
    split at h
    · simp only [Option.bind_eq_bind, Option.bind_eq_some_iff, Option.pure_def,
        Option.some.injEq] at h
      obtain ⟨id, hid, es, hes, st, hst, _, -, rfl⟩ := h
      refine ⟨⟨ProjectableId.inverts.inRange_of_required hid,
        Entry.inverts.inRange_of_list hes⟩, ?_⟩
      rintro rfl
      -- a state was read, so its column was not null, and the state is what the column holds
      obtain ⟨j, hj, hread⟩ := exists_of_optional hst
      exact hj (Option.some.inj hread)
    · cases h

end Projectable

/-! ### Settings -/

namespace DispatchConfig

/-- The size of a batch is a number of 64 bits. -/
def InRange (c : DispatchConfig) : Prop := c.batchSize < Nat.pow 2 64

theorem inverts : Inverts Shape.read toJson InRange := by
  refine inverts_record (by decide) (fun _ => rfl) ?written ?read
  case written =>
    intro c h
    simp [Json.nat?_nat h, Duration.inverts.read_write trivial,
      Duration.inverts.optional_orNull fun d _ => ⟨trivial, d.toJson_ne_null⟩]
  case read =>
    intro cs v h
    split at h
    · simp only [Option.bind_eq_bind, Option.bind_eq_some_iff, Option.pure_def,
        Option.some.injEq] at h
      obtain ⟨_, -, _, -, n, hn, _, -, _, -, rfl⟩ := h
      exact lt_of_required hn
    · cases h

end DispatchConfig

namespace RetryPolicy

/-- The number of attempts has 32 bits. -/
def InRange (p : RetryPolicy) : Prop := p.maxAttempts < Nat.pow 2 32

theorem inverts : Inverts Shape.read toJson InRange := by
  refine inverts_record (by decide) (fun _ => rfl) ?written ?read
  case written =>
    intro p h
    simp [Json.nat?_nat h, Duration.inverts.read_write trivial,
      Backoff.inverts.read_write trivial]
  case read =>
    intro cs v h
    split at h
    · simp only [Option.bind_eq_bind, Option.bind_eq_some_iff, Option.pure_def,
        Option.some.injEq] at h
      obtain ⟨n, hn, _, -, _, -, _, -, rfl⟩ := h
      exact lt_of_required hn
    · cases h

end RetryPolicy

/-! ### All forms -/

/-- What has a JSON form is read back from it; records are told by the names of their fields. -/
structure ReadsBack : Prop where
  streamId : RoundTrips StreamId fun _ => True
  expectedVersion : RoundTrips ExpectedVersion ExpectedVersion.InRange
  newEntry : RoundTrips NewEntry NewEntry.InRange ∧ ReadsAsRecord NewEntry NewEntry.fieldNames
  entry : RoundTrips Entry Entry.InRange ∧ ReadsAsRecord Entry Entry.fieldNames
  metadata : RoundTrips Metadata (fun _ => True) ∧ ReadsAsRecord Metadata Metadata.fieldNames
  snapshot : RoundTrips Snapshot Snapshot.InRange ∧ ReadsAsRecord Snapshot Snapshot.fieldNames
  streamStatus : RoundTrips StreamStatus fun _ => True
  streamHistory : RoundTrips StreamHistory StreamHistory.InRange ∧
    ReadsAsRecord StreamHistory StreamHistory.fieldNames
  streamSummary : RoundTrips StreamSummary StreamSummary.InRange ∧
    ReadsAsRecord StreamSummary StreamSummary.fieldNames
  projectableId : RoundTrips ProjectableId ProjectableId.InRange ∧
    ReadsAsRecord ProjectableId ProjectableId.fieldNames
  projectable : RoundTrips Projectable (fun p => p.InRange ∧ p.state ≠ some .null) ∧
    ReadsAsRecord Projectable Projectable.fieldNames
  /-- The one value in range that is not read back: a state that is null is lost. -/
  nullState : ∀ p : Projectable, p.InRange → p.state = some .null →
    Shape.read (Shape.write p) = some { p with state := none }
  dispatchConfig : RoundTrips DispatchConfig DispatchConfig.InRange ∧
    ReadsAsRecord DispatchConfig DispatchConfig.fieldNames
  retryPolicy : RoundTrips RetryPolicy RetryPolicy.InRange ∧
    ReadsAsRecord RetryPolicy RetryPolicy.fieldNames
  backoff : RoundTrips Backoff fun _ => True
  strategy : RoundTrips Strategy fun _ => True

theorem NewEntry.isRecord : IsRecord NewEntry NewEntry.fieldNames :=
  ⟨by decide, fun _ => ⟨_, rfl, rfl⟩, ⟨_, fun _ => rfl⟩⟩

theorem Entry.isRecord : IsRecord Entry Entry.fieldNames :=
  ⟨by decide, fun _ => ⟨_, rfl, rfl⟩, ⟨_, fun _ => rfl⟩⟩

theorem Metadata.isRecord : IsRecord Metadata Metadata.fieldNames :=
  ⟨by decide, fun _ => ⟨_, rfl, rfl⟩, ⟨_, fun _ => rfl⟩⟩

theorem Snapshot.isRecord : IsRecord Snapshot Snapshot.fieldNames :=
  ⟨by decide, fun _ => ⟨_, rfl, rfl⟩, ⟨_, fun _ => rfl⟩⟩

theorem StreamHistory.isRecord : IsRecord StreamHistory StreamHistory.fieldNames :=
  ⟨by decide, fun _ => ⟨_, rfl, rfl⟩, ⟨_, fun _ => rfl⟩⟩

theorem StreamSummary.isRecord : IsRecord StreamSummary StreamSummary.fieldNames :=
  ⟨by decide, fun _ => ⟨_, rfl, rfl⟩, ⟨_, fun _ => rfl⟩⟩

theorem ProjectableId.isRecord : IsRecord ProjectableId ProjectableId.fieldNames :=
  ⟨by decide, fun _ => ⟨_, rfl, rfl⟩, ⟨_, fun _ => rfl⟩⟩

theorem Projectable.isRecord : IsRecord Projectable Projectable.fieldNames :=
  ⟨by decide, fun _ => ⟨_, rfl, rfl⟩, ⟨_, fun _ => rfl⟩⟩

theorem DispatchConfig.isRecord : IsRecord DispatchConfig DispatchConfig.fieldNames :=
  ⟨by decide, fun _ => ⟨_, rfl, rfl⟩, ⟨_, fun _ => rfl⟩⟩

theorem RetryPolicy.isRecord : IsRecord RetryPolicy RetryPolicy.fieldNames :=
  ⟨by decide, fun _ => ⟨_, rfl, rfl⟩, ⟨_, fun _ => rfl⟩⟩

/-- **Every value with a JSON form is read back from it**, except that a projectable loses a
state that is null; reading the written form of a value that was read gives the value again;
and records do not depend on fields with other names, nor on having names at all. -/
theorem readsBack : ReadsBack where
  streamId := StreamId.inverts.roundTrips
  expectedVersion := ExpectedVersion.inverts.roundTrips
  streamStatus := StreamStatus.inverts.roundTrips
  backoff := Backoff.inverts.roundTrips
  strategy := Strategy.inverts.roundTrips
  newEntry := ⟨NewEntry.inverts.roundTrips, NewEntry.isRecord.readsAsRecord⟩
  entry := ⟨Entry.inverts.roundTrips, Entry.isRecord.readsAsRecord⟩
  metadata := ⟨Metadata.inverts.roundTrips, Metadata.isRecord.readsAsRecord⟩
  snapshot := ⟨Snapshot.inverts.roundTrips, Snapshot.isRecord.readsAsRecord⟩
  streamHistory := ⟨StreamHistory.inverts.roundTrips, StreamHistory.isRecord.readsAsRecord⟩
  streamSummary := ⟨StreamSummary.inverts.roundTrips, StreamSummary.isRecord.readsAsRecord⟩
  projectableId := ⟨ProjectableId.inverts.roundTrips, ProjectableId.isRecord.readsAsRecord⟩
  projectable := ⟨Projectable.inverts.roundTrips, Projectable.isRecord.readsAsRecord⟩
  dispatchConfig := ⟨DispatchConfig.inverts.roundTrips, DispatchConfig.isRecord.readsAsRecord⟩
  retryPolicy := ⟨RetryPolicy.inverts.roundTrips, RetryPolicy.isRecord.readsAsRecord⟩
  nullState p hrange hstate := by
    have hkept : p.keptState = none := by
      rw [Projectable.keptState, hstate]
      rfl
    exact hkept ▸ Projectable.read_toJson hrange

end EventJournal
