/-
EventJournal/Proofs/Event/Registry.lean

What a registry encodes, a journal stores and the registry decodes again.

A registry is set up by calls, and of the calls for one type the last one counts, whether it
raises the current version or lowers it (`adapters_setUp`).  Both directions ask the same
adapter: `toEntry` writes its current version, and `decode` refuses what is above it.  So an
entry that was written is never refused for its version, as long as nobody registers its type
again in between.

A decoder may fail as it likes, even with the words in which the registry refuses a type or a
version, and its words are passed on.  So these words alone do not tell that a type was never
registered or that a version is too new (`not_tellsByRegistration_squeamish`).

Main result: a registry decodes and encodes by the last registration of each type, and what it
encodes can be appended and is decoded when it is read back (`keepsEvents_setUp`).
-/
import EventJournal.Event.Plain
import EventJournal.Event.Registry
import EventJournal.Proofs.Journal.History
import Mathlib.Data.List.Induction

namespace EventJournal

variable {ε : Type}

/-! ### Adapters -/

namespace Adapter

/-- The adapter of a type whose bodies have one shape in all versions. -/
def ofShape {α : Type} [Shape α] (entryType : String) (currentVersion : Nat) (wrap : α → ε) :
    Adapter ε where
  currentVersion := currentVersion
  decode version body :=
    match (Shape.read body : Option α) with
    | none => .error (.decode entryType version Registry.misshapen)
    | some a => .ok (wrap a)

end Adapter

namespace Registry

/-! ### Setting up -/

/-- A call that sets up a registry. -/
inductive Call (ε : Type) : Type 1 where
  | register (entryType : String) (adapter : Adapter ε)
  | registerShape {α : Type} [Shape α] (entryType : String) (currentVersion : Nat) (wrap : α → ε)

namespace Call

/-- The registry after the call. -/
def make (call : Call ε) (r : Registry ε) : Registry ε :=
  match call with
  | register entryType a => r.register entryType a.currentVersion a.decode
  | registerShape entryType currentVersion wrap => r.registerShape entryType currentVersion wrap

/-- The type that is registered. -/
def entryType : Call ε → String
  | register entryType _ => entryType
  | registerShape entryType _ _ => entryType

/-- The adapter under which it is registered. -/
def adapter : Call ε → Adapter ε
  | register _ a => a
  | registerShape entryType currentVersion wrap => .ofShape entryType currentVersion wrap

theorem adapters_make (call : Call ε) (r : Registry ε) :
    (call.make r).adapters = r.adapters.insert call.entryType call.adapter := by
  cases call <;> rfl

end Call

/-- The registry that some calls set up, one after the other. -/
def setUp (calls : List (Call ε)) : Registry ε := calls.foldl (fun r call => call.make r) empty

/-- The adapter under which a type was registered last. -/
def last? (calls : List (Call ε)) (entryType : String) : Option (Adapter ε) :=
  (calls.filter fun call => call.entryType = entryType).getLast?.map Call.adapter

theorem last?_concat (calls : List (Call ε)) (call : Call ε) (t : String) :
    last? (calls ++ [call]) t
      = if t = call.entryType then some call.adapter else last? calls t := by
  unfold last?
  rw [List.filter_append]
  by_cases h : call.entryType = t
  · -- the new registration is the last one of its own type
    rw [List.filter_cons_of_pos (by simpa using h), List.filter_nil, List.getLast?_concat,
      if_pos h.symm]
    rfl
  · rw [List.filter_cons_of_neg (by simpa using h), List.filter_nil, List.append_nil,
      if_neg fun h' => h h'.symm]

theorem last?_eq_none_iff {calls : List (Call ε)} {t : String} :
    last? calls t = none ↔ ∀ call ∈ calls, call.entryType ≠ t := by
  rw [last?, Option.map_eq_none_iff, List.getLast?_eq_none_iff, List.filter_eq_nil_iff]
  simp only [decide_eq_true_eq, ne_eq]

/-- Registrations of other types do not touch a type. -/
theorem last?_append_of_forall_ne {calls more : List (Call ε)} {t : String}
    (h : ∀ call ∈ more, call.entryType ≠ t) : last? (calls ++ more) t = last? calls t := by
  -- none of the later registrations is of this type
  have hnone : (more.filter fun call => call.entryType = t) = [] := by
    rw [List.filter_eq_nil_iff]
    simpa only [decide_eq_true_eq] using h
  rw [last?, List.filter_append, hnone, List.append_nil, last?]

/-- A registry holds the adapter of the last registration, by induction on the calls from the
end. -/
theorem adapters_setUp (calls : List (Call ε)) (t : String) :
    (setUp calls).adapters.get? t = last? calls t := by
  induction calls using List.reverseRecOn with
  | nil => rfl
  | append_singleton calls call ih =>
    have hmake : setUp (calls ++ [call]) = call.make (setUp calls) := List.foldl_concat ..
    rw [hmake, call.adapters_make, Table.get?_insert, ih, last?_concat]

/-! ### Decoding and encoding -/

section Answers

variable {r : Registry ε} {t : String} {a : Adapter ε}

/-- Of a type that was not registered nothing can be decoded. -/
theorem decode_of_none (h : r.adapters.get? t = none) (version : Nat) (body : Json) :
    r.decode t version body = .error (.unknownType t) := by
  rw [decode, h]

/-- A version above the current one is refused without the decoder being asked. -/
theorem decode_of_lt (h : r.adapters.get? t = some a) {version : Nat}
    (hv : a.currentVersion < version) (body : Json) :
    r.decode t version body = .error (.futureVersion t version a.currentVersion) := by
  rw [decode, h]
  exact if_pos hv

/-- All other versions are left to the decoder. -/
theorem decode_of_le (h : r.adapters.get? t = some a) {version : Nat}
    (hv : version ≤ a.currentVersion) (body : Json) :
    r.decode t version body = a.decode version body := by
  rw [decode, h]
  exact if_neg (Nat.not_lt.2 hv)

/-- It is answered that a type is unknown if it is, or if the decoder says so. -/
theorem decode_eq_unknownType_iff {version : Nat} {body : Json} :
    r.decode t version body = .error (.unknownType t) ↔
      r.adapters.get? t = none ∨ ∃ a, r.adapters.get? t = some a ∧
        version ≤ a.currentVersion ∧ a.decode version body = .error (.unknownType t) := by
  constructor
  · intro hdecode
    cases ha : r.adapters.get? t with
    | none => exact Or.inl rfl
    | some a =>
      by_cases hv : a.currentVersion < version
      · rw [decode_of_lt ha hv] at hdecode
        cases hdecode
      · rw [decode_of_le ha (Nat.not_lt.1 hv)] at hdecode
        exact Or.inr ⟨a, rfl, Nat.not_lt.1 hv, hdecode⟩
  · rintro (hnone | ⟨a, ha, hv, hdecode⟩)
    · exact decode_of_none hnone version body
    · rwa [decode_of_le ha hv]

/-- It is answered that a version is too new if it is, or if the decoder says so. -/
theorem decode_eq_futureVersion_iff {version : Nat} {body : Json} {stored current : Nat} :
    r.decode t version body = .error (.futureVersion t stored current) ↔
      (stored = version ∧
        ∃ a, r.adapters.get? t = some a ∧ a.currentVersion = current ∧ current < version) ∨
      ∃ a, r.adapters.get? t = some a ∧ version ≤ a.currentVersion ∧
        a.decode version body = .error (.futureVersion t stored current) := by
  constructor
  · intro hdecode
    cases ha : r.adapters.get? t with
    | none =>
      rw [decode_of_none ha] at hdecode
      cases hdecode
    | some a =>
      by_cases hv : a.currentVersion < version
      · rw [decode_of_lt ha hv] at hdecode
        cases hdecode
        -- the registry says so by itself, and names its own version and the one that it was given
        exact Or.inl ⟨rfl, a, rfl, rfl, hv⟩
      · rw [decode_of_le ha (Nat.not_lt.1 hv)] at hdecode
        exact Or.inr ⟨a, rfl, Nat.not_lt.1 hv, hdecode⟩
  · rintro (⟨rfl, a, ha, rfl, hv⟩ | ⟨a, ha, hv, hdecode⟩)
    · exact decode_of_lt ha hv body
    · rwa [decode_of_le ha hv]

/-- An event is written in the current version of its type, whatever its own version is. -/
theorem toEntry_eq [Event ε] (r : Registry ε) {e : ε} {body : Json}
    (h : Event.body e = .ok body) :
    r.toEntry e = match r.adapters.get? (Event.typeName e) with
      | none => .error (.unknownType (Event.typeName e))
      | some a => .ok ⟨Event.typeName e, a.currentVersion, body⟩ := by
  unfold toEntry currentVersion?
  cases r.adapters.get? (Event.typeName e) with
  | none => rfl
  | some a =>
    show (NewEntry.ofEvent e).map _ = _
    rw [NewEntry.ofEvent, h]
    rfl

end Answers

end Registry

/-! ### Storing -/

namespace Journal

/-- An entry in order can be appended to any stream that is not closed.  From then on everybody
who reads the place behind the old end of the log is given this entry. -/
theorem append_single (j : Journal) {id : StreamId} {n : NewEntry} (hid : id.name ≠ "")
    (hn : n.WellTyped) (hopen : j.statusOf id ≠ .tombstoned) (metadata : Metadata)
    (snapshot : Option Snapshot) :
    ∃ result e j', j.append ⟨id, .any, [n], metadata, snapshot⟩ = (.ok result, j') ∧
      result.entries = [e] ∧ e.toNew = n ∧
      ∀ later, j'.Extends later → ∀ position most, position ≤ j.length →
        j.length < position + most →
        (later.readFrom position most)[j.length - position]? = some e := by
  have hwf : Append.WellFormed ⟨id, .any, [n], metadata, snapshot⟩ :=
    ⟨hid, by simp, by simpa using hn⟩
  have hnone : j.refusal? ⟨id, .any, [n], metadata, snapshot⟩ = none :=
    refusal?_eq_none_iff.2 ⟨hopen, trivial⟩
  rcases append_cases j ⟨id, .any, [n], metadata, snapshot⟩ with ⟨err, herr, -⟩ | ⟨-, -, happ⟩
  · -- an entry in order meets no objection, neither by itself nor in its stream
    rw [Append.flaw?_eq_none_iff.2 hwf, hnone] at herr
    cases herr
  · refine ⟨_, _, _, happ, rfl, rfl, ?_⟩
    intro later hlater position most hle hlt
    -- the entry is the last one of the new log, and the log only grows
    obtain ⟨more, hmore⟩ := hlater.log_prefix
    rw [readFrom, List.getElem?_take_of_lt (by omega), List.getElem?_drop,
      Nat.add_sub_cancel' hle, ← hmore]
    simp [commit, Append.commit, length]

end Journal

namespace Registry

/-! ### Events kept -/

/-- The registry that the calls set up keeps events. -/
structure KeepsEvents [Event ε] (calls : List (Call ε)) : Prop where
  /-- A type that was never registered is unknown. -/
  unregistered : ∀ t version body, (∀ call ∈ calls, call.entryType ≠ t) →
    (setUp calls).decode t version body = .error (.unknownType t)
  /-- A version above that of the last registration is too new. -/
  future : ∀ t version body a, last? calls t = some a → a.currentVersion < version →
    (setUp calls).decode t version body = .error (.futureVersion t version a.currentVersion)
  /-- All else is what the decoder makes of it that was registered last. -/
  decoded : ∀ t version body a, last? calls t = some a → version ≤ a.currentVersion →
    (setUp calls).decode t version body = a.decode version body
  /-- A type is said to be unknown if it was never registered or the decoder that was registered
  last says so. -/
  unknown_iff : ∀ t version body, (setUp calls).decode t version body = .error (.unknownType t) ↔
    (∀ call ∈ calls, call.entryType ≠ t) ∨ ∃ a, last? calls t = some a ∧
      version ≤ a.currentVersion ∧ a.decode version body = .error (.unknownType t)
  /-- A version is said to be too new if it is above that of the last registration or the decoder
  that was registered last says so. -/
  future_iff : ∀ t version body stored current,
    (setUp calls).decode t version body = .error (.futureVersion t stored current) ↔
      (stored = version ∧
        ∃ a, last? calls t = some a ∧ a.currentVersion = current ∧ current < version) ∨
      ∃ a, last? calls t = some a ∧ version ≤ a.currentVersion ∧
        a.decode version body = .error (.futureVersion t stored current)
  /-- An event with a body is refused only if its type was never registered; it is written in
  the version of the last registration. -/
  encoded : ∀ (e : ε) body, Event.body e = .ok body →
    (setUp calls).toEntry e = match last? calls (Event.typeName e) with
      | none => .error (.unknownType (Event.typeName e))
      | some a => .ok ⟨Event.typeName e, a.currentVersion, body⟩
  /-- What was written can be appended to any stream that is not closed, and every reader that
  comes to it later is given an entry of which the decoder gets the body in its own version,
  whatever else is registered in between. -/
  stored : ∀ (e : ε) body a, Event.body e = .ok body →
    last? calls (Event.typeName e) = some a → Event.typeName e ≠ "" → 1 ≤ a.currentVersion →
    ∀ (j : Journal) (id : StreamId) (metadata : Metadata) (snapshot : Option Snapshot),
      id.name ≠ "" → j.statusOf id ≠ .tombstoned →
      ∃ n result entry j', (setUp calls).toEntry e = .ok n ∧
        j.append ⟨id, .any, [n], metadata, snapshot⟩ = (.ok result, j') ∧
        result.entries = [entry] ∧
        (∀ more, (∀ call ∈ more, call.entryType ≠ Event.typeName e) →
          (setUp (calls ++ more)).ofEntry entry = a.decode a.currentVersion body) ∧
        ∀ later, j'.Extends later → ∀ (readers : Readers) (name : String) (most : Nat),
          readers.position name ≤ j.length → j.length < readers.position name + most →
          (readers.readNext later name most).1[j.length - readers.position name]? = some entry

/-- **A registry decodes what it encodes**, however it was set up: it goes by the last
registration of each type in both directions, and a journal keeps what lies between them. -/
theorem keepsEvents_setUp [Event ε] (calls : List (Call ε)) : KeepsEvents calls where
  unregistered t version body h :=
    decode_of_none ((adapters_setUp calls t).trans (last?_eq_none_iff.2 h)) version body
  future t version body a ha hv := decode_of_lt ((adapters_setUp calls t).trans ha) hv body
  decoded t version body a ha hv := decode_of_le ((adapters_setUp calls t).trans ha) hv body
  unknown_iff t version body := by
    rw [decode_eq_unknownType_iff, adapters_setUp, last?_eq_none_iff]
  future_iff t version body stored current := by
    rw [decode_eq_futureVersion_iff, adapters_setUp]
  encoded e body hbody := by
    rw [toEntry_eq _ hbody, adapters_setUp]
  stored e body a hbody ha htype hversion j id metadata snapshot hid hopen := by
    have hentry : (setUp calls).toEntry e = .ok ⟨Event.typeName e, a.currentVersion, body⟩ := by
      rw [toEntry_eq _ hbody, adapters_setUp, ha]
    -- the journal asks no more of an entry than a type with a name and a version above zero
    obtain ⟨result, entry, j', happ, hresult, hnew, hread⟩ :=
      j.append_single hid (n := ⟨Event.typeName e, a.currentVersion, body⟩) ⟨htype, hversion⟩ hopen
        metadata snapshot
    refine ⟨_, result, entry, j', hentry, happ, hresult, ?_, ?_⟩
    · -- the version that was written is the current one, so the decoder is asked
      intro more hmore
      have hlast : (setUp (calls ++ more)).adapters.get? (Event.typeName e) = some a := by
        rw [adapters_setUp, last?_append_of_forall_ne hmore, ha]
      obtain ⟨hty, hver, hpay⟩ := NewEntry.mk.inj hnew
      rw [ofEntry, hty, hver, hpay]
      exact decode_of_le hlast (Nat.le_refl _) _
    · exact fun later hlater readers name most => hread later hlater (readers.position name) most

/-- The registry that the calls set up says that a type is unknown exactly if it was never
registered, and that a version is too new exactly if it is above that of the last registration. -/
def TellsByRegistration (calls : List (Call ε)) : Prop :=
  (∀ t version body, (setUp calls).decode t version body = .error (.unknownType t) ↔
    ∀ call ∈ calls, call.entryType ≠ t) ∧
  ∀ t version body stored current,
    (setUp calls).decode t version body = .error (.futureVersion t stored current) ↔
      stored = version ∧
        ∃ a, last? calls t = some a ∧ a.currentVersion = current ∧ current < version

/-- The second registration of the type lowers its version. -/
def lowered : List (Call PlainEvent) :=
  [.register "opened" ⟨3, PlainEvent.echo "opened"⟩,
    .register "opened" ⟨2, PlainEvent.echo "opened"⟩]

example : (setUp lowered).toEntry (⟨"opened", 7, .null, none⟩ : PlainEvent) =
    .ok ⟨"opened", 2, .null⟩ := rfl

/-- Decoders that refuse in the words of a registry: one says of every body that its type is
unknown, the other one that its version is too new. -/
def squeamish : List (Call PlainEvent) :=
  [.register "opened" ⟨1, fun _ _ => .error (.unknownType "opened")⟩,
    .register "closed" ⟨1, fun version _ => .error (.futureVersion "closed" version 0)⟩]

/-- What is written and read back can be refused as unknown or as too new: by a decoder, and also
by the registry if the type was registered anew in between. -/
theorem not_tellsByRegistration_squeamish :
    ¬ TellsByRegistration squeamish ∧
      (setUp squeamish).toEntry (⟨"opened", 1, .null, none⟩ : PlainEvent)
        = .ok ⟨"opened", 1, .null⟩ ∧
      (setUp squeamish).decode "opened" 1 .null = .error (.unknownType "opened") ∧
      (setUp squeamish).toEntry (⟨"closed", 1, .null, none⟩ : PlainEvent)
        = .ok ⟨"closed", 1, .null⟩ ∧
      (setUp squeamish).decode "closed" 1 .null = .error (.futureVersion "closed" 1 0) ∧
      (setUp (lowered.take 1)).toEntry (⟨"opened", 7, .null, none⟩ : PlainEvent)
        = .ok ⟨"opened", 3, .null⟩ ∧
      (setUp lowered).decode "opened" 3 .null = .error (.futureVersion "opened" 3 2) := by
  refine ⟨?_, rfl, rfl, rfl, rfl, rfl, rfl⟩
  -- the type was registered, and its own decoder calls it unknown
  rintro ⟨hunknown, -⟩
  exact (hunknown "opened" 1 .null).1 rfl _ List.mem_cons_self rfl

end Registry

end EventJournal
