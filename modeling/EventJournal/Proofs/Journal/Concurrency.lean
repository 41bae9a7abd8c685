/-
EventJournal/Proofs/Journal/Concurrency.lean

No update is lost between writers that expect a version.

Clients take turns on one journal in any order; each turn is one operation or one look at a
stream.  What they asked and were answered (`Turns.dialogue`) is all that they know.  A
writer who has seen version `c` of a stream and asks for the next one is refused as soon as
anybody else has written to the stream in between, however often the stream was hidden and
reopened meanwhile: an append adds its entries to the version (`Call.version_of_commit?`),
and nothing ever takes any away, so no version is the next one twice.

Main result: `losesNoUpdate`, for every journal and every order of turns.
-/
import EventJournal.Proofs.Journal.Visibility

namespace EventJournal

/-! ### Turns -/

/-- What a client asks of a journal in one turn. -/
inductive Call where
  | operate (op : Operation)
  /-- The bookkeeping of a stream. -/
  | summary (id : StreamId)
  /-- The visible history of a stream. -/
  | history (id : StreamId)
deriving DecidableEq, Repr

/-- What a client asked and was answered. -/
inductive Exchange where
  | operated (deed : Deed)
  | summary (answer : Except JournalError StreamSummary)
  | history (answer : StreamHistory)

namespace Call

/-- The journal after a turn. -/
def make (c : Call) (j : Journal) : Journal :=
  match c with
  | operate op => (op.perform j).2
  | summary _ | history _ => j

/-- What the client is answered. -/
def exchange (c : Call) (j : Journal) : Exchange :=
  match c with
  | operate op => .operated (op.deed j)
  | summary id => .summary (j.summary id)
  | history id => .history (j.history id)

end Call

namespace Exchange

/-- The request and the result of an append that succeeded. -/
def commit? : Exchange → Option (Append × AppendResult)
  | operated ⟨.append a, .ok (some r)⟩ => some (a, r)
  | _ => none

/-- The stream and its version that the client has seen. -/
def observed? : Exchange → Option (StreamId × Nat)
  | operated d => (operated d).commit?.map fun c => (c.2.stream, c.2.streamVersion)
  | summary (.ok i) => some (i.stream, i.currentVersion)
  | summary (.error _) => none
  | history h => some (h.stream, h.streamVersion)

/-- An append to the stream succeeded. -/
def Commits (x : Exchange) (id : StreamId) : Prop :=
  ∃ a r, x.commit? = some (a, r) ∧ a.stream = id

/-- An append to the stream succeeded that expected this. -/
def Wins (x : Exchange) (id : StreamId) (e : ExpectedVersion) : Prop :=
  ∃ a r, x.commit? = some (a, r) ∧ a.stream = id ∧ a.expected = e

end Exchange

/-- Calls of clients, in the order in which the journal takes them. -/
abbrev Turns (κ : Type) : Type := List (κ × Call)

namespace Turns

variable {κ : Type}

/-- The journal after all turns. -/
def make : Turns κ → Journal → Journal
  | [], j => j
  | (_, c) :: rest, j => make rest (c.make j)

/-- What was asked and answered. -/
def dialogue : Turns κ → Journal → List (κ × Exchange)
  | [], _ => []
  | (who, c) :: rest, j => (who, c.exchange j) :: dialogue rest (c.make j)

/-- Both parts of a dialogue are dialogues, by induction on the first. -/
theorem dialogue_eq_append {ts : Turns κ} {j : Journal} {xs ys : List (κ × Exchange)}
    (h : dialogue ts j = xs ++ ys) :
    ∃ before after, ts = before ++ after ∧ dialogue before j = xs ∧
      dialogue after (make before j) = ys := by
  induction xs generalizing ts j with
  | nil => exact ⟨[], ts, rfl, rfl, h⟩
  | cons x xs ih =>
    cases ts with
    | nil => cases h
    | cons t rest =>
      obtain ⟨who, c⟩ := t
      obtain ⟨hx, hrest⟩ := List.cons.inj h
      obtain ⟨before, after, rfl, hbefore, hafter⟩ := ih hrest
      refine ⟨(who, c) :: before, after, rfl, ?_, hafter⟩
      rw [dialogue, hx, hbefore]

/-- The first exchange of a dialogue is that of the first turn. -/
theorem eq_cons_of_dialogue {ts : Turns κ} {j : Journal} {who : κ} {x : Exchange}
    {xs : List (κ × Exchange)} (h : dialogue ts j = (who, x) :: xs) :
    ∃ c rest, ts = (who, c) :: rest ∧ c.exchange j = x ∧ dialogue rest (c.make j) = xs := by
  cases ts with
  | nil => cases h
  | cons t rest =>
    obtain ⟨hhead, htail⟩ := List.cons.inj h
    obtain ⟨rfl, hx⟩ := Prod.mk.inj hhead
    exact ⟨t.2, rest, rfl, hx, htail⟩

end Turns

/-! ### One turn -/

/-- The first entry of a commit gets the next version of the stream. -/
theorem Journal.Commits.firstVersion {j j' : Journal} {a : Append} {r : AppendResult}
    (h : j.Commits a r j') (hwf : a.WellFormed) :
    r.firstVersion = some (j.version a.stream + 1) := by
  obtain ⟨e, es, hes⟩ := List.exists_cons_of_ne_nil hwf.2.1
  rw [AppendResult.firstVersion, ← List.head?_map, h.streamVersion, hes]
  rfl

namespace Call

variable {c : Call} {j : Journal} {id : StreamId} {a : Append} {r : AppendResult}

/-- An append that is known to have succeeded has committed. -/
theorem commits_of_commit? (h : (c.exchange j).commit? = some (a, r)) :
    a.WellFormed ∧ j.refusal? a = none ∧ j.Commits a r (c.make j) := by
  cases c with
  | summary id => cases h
  | history id => cases h
  | operate op =>
    simp only [exchange, Operation.deed, make] at h ⊢
    -- an operation that fails or only changes a record is not answered with a commit
    rcases op.perform_cases j with ⟨e, hop⟩ | ⟨a', r', rfl, hwf, href, hans, hcommits⟩ |
      ⟨_, _, -, -, -, -, hop⟩
    · rw [hop] at h
      cases op <;> cases h
    · rw [hans] at h
      cases h
      exact ⟨hwf, href, hcommits⟩
    · rw [hop] at h
      cases op <;> cases h

/-- An append adds its entries to the version of its stream, and reports the new version. -/
theorem version_of_commit? (h : (c.exchange j).commit? = some (a, r)) :
    (c.make j).version a.stream = j.version a.stream + a.entries.length ∧
      r.stream = a.stream ∧ r.streamVersion = (c.make j).version a.stream := by
  obtain ⟨-, -, hcommits⟩ := commits_of_commit? h
  -- the record has one place for each entry, old or new
  have hversion : (c.make j).version a.stream = j.version a.stream + a.entries.length := by
    rw [Journal.version, Journal.recordOf_of_get? hcommits.record, StreamRecord.version,
      List.length_append, List.length_range']
    rfl
  exact ⟨hversion, hcommits.answered.1, hversion ▸ hcommits.answered.2⟩

/-- The version of a stream stays if nothing is appended to it. -/
theorem version_of_not_commits (h : ¬ (c.exchange j).Commits id) :
    (c.make j).version id = j.version id := by
  cases c with
  | summary id => rfl
  | history id => rfl
  | operate op =>
    simp only [exchange, Operation.deed, make] at h ⊢
    rcases op.perform_cases j with ⟨e, hop⟩ | ⟨a, r, rfl, -, -, hans, hcommits⟩ |
      ⟨ch, r, -, hentries, hr, -, hop⟩
    · rw [hop]
    · rw [hans] at h
      -- an append that succeeds can only be one to another stream
      have hid : id ≠ a.stream := fun hid => h ⟨a, r, rfl, hid.symm⟩
      rw [Journal.version, Journal.recordOf, Table.getD, hcommits.others id hid]
      rfl
    · -- deletes and truncations write the record, but leave all its places
      rw [hop, Journal.version, Journal.recordOf_setRecord]
      split
      · rename_i hid
        rw [Change.version_revise, hentries, hid, Journal.version, Journal.recordOf_of_get? hr]
        rfl
      · rfl

/-- An append that succeeds raises the version of its stream. -/
theorem version_lt_make (h : (c.exchange j).Commits id) : j.version id < (c.make j).version id := by
  obtain ⟨a, r, hc, rfl⟩ := h
  have hne : 0 < a.entries.length := List.length_pos_iff.2 (commits_of_commit? hc).1.2.1
  have hversion := (version_of_commit? hc).1
  omega

/-- A turn never lowers a version. -/
theorem version_le_make (c : Call) (j : Journal) (id : StreamId) :
    j.version id ≤ (c.make j).version id := by
  by_cases h : (c.exchange j).Commits id
  · exact Nat.le_of_lt (version_lt_make h)
  · exact Nat.le_of_eq (version_of_not_commits h).symm

/-- What a client has seen of a stream is how the turn leaves it. -/
theorem version_of_observed? {v : Nat} (h : (c.exchange j).observed? = some (id, v)) :
    (c.make j).version id = v := by
  cases c with
  | history id' =>
    rw [exchange, Journal.history_eq] at h
    cases h
    rfl
  | summary id' =>
    rw [exchange, Journal.summary, Journal.summaryOf_eq] at h
    split at h
    · cases h
    · cases h
      rfl
  | operate op =>
    -- what an append reports is the version that it has made
    obtain ⟨⟨a, r⟩, hc, hseen⟩ := Option.map_eq_some_iff.1 h
    obtain ⟨-, hstream, hversion⟩ := version_of_commit? (c := .operate op) (j := j) hc
    obtain ⟨rfl, rfl⟩ := Prod.mk.inj hseen
    exact (congrArg _ hstream).trans hversion.symm

end Call

/-! ### Many turns -/

namespace Turns

variable {κ : Type} {ts : Turns κ} {j : Journal} {id : StreamId}

/-- Versions never go back, by induction on the turns. -/
theorem version_le_make (ts : Turns κ) (j : Journal) (id : StreamId) :
    j.version id ≤ (make ts j).version id := by
  induction ts generalizing j with
  | nil => exact Nat.le_refl _
  | cons t rest ih => exact Nat.le_trans (t.2.version_le_make j id) (ih _)

/-- A version that is still the same was not written past. -/
theorem not_commits_of_version_eq (h : (make ts j).version id = j.version id) :
    ∀ x ∈ dialogue ts j, ¬ x.2.Commits id := by
  induction ts generalizing j with
  | nil => simp [dialogue]
  | cons t rest ih =>
    obtain ⟨who, c⟩ := t
    have hrest := version_le_make rest (c.make j) id
    have hfirst := c.version_le_make j id
    -- neither the first turn nor the rest can have moved the version
    rw [make] at h
    refine List.forall_mem_cons.2 ⟨fun hc => ?_, ih (by omega)⟩
    have hlt := Call.version_lt_make hc
    omega

/-- If no version from the current one on is expected, then nobody wins. -/
theorem not_wins_of_passed {e : ExpectedVersion} (h : ∀ c, j.version id ≤ c → ¬ e.Matches c) :
    ∀ x ∈ dialogue ts j, ¬ x.2.Wins id e := by
  induction ts generalizing j with
  | nil => simp [dialogue]
  | cons t rest ih =>
    obtain ⟨who, c⟩ := t
    refine List.forall_mem_cons.2 ⟨?_, ih fun v hv => h v ?_⟩
    · rintro ⟨a, r, hc, rfl, rfl⟩
      -- who wins was granted the version of that moment
      have href := (Call.commits_of_commit? hc).2.1
      exact h _ (Nat.le_refl _) (Journal.refusal?_eq_none_iff.1 href).2
    · exact Nat.le_trans (c.version_le_make j id) hv

/-- What can be expected of one version only is met by one append at most, by induction on the
turns: after an append that wins, the version has passed all that it could be. -/
theorem pairwise_not_wins {e : ExpectedVersion}
    (he : ∀ c c', e.Matches c → c < c' → ¬ e.Matches c') (ts : Turns κ) (j : Journal)
    (id : StreamId) :
    (dialogue ts j).Pairwise fun x y => x.2.Wins id e → ¬ y.2.Wins id e := by
  induction ts generalizing j with
  | nil => exact .nil
  | cons t rest ih =>
    obtain ⟨who, c⟩ := t
    refine .cons (fun y hy hx => ?_) (ih (c.make j))
    obtain ⟨a, r, hc, rfl, rfl⟩ := hx
    -- the version at the first win was expected, and from then on it is higher
    have hmet := (Journal.refusal?_eq_none_iff.1 (Call.commits_of_commit? hc).2.1).2
    have hlt : j.version a.stream < (c.make j).version a.stream :=
      Call.version_lt_make ⟨a, r, hc, rfl⟩
    exact not_wins_of_passed (fun v hv => he _ v hmet (Nat.lt_of_lt_of_le hlt hv)) y hy

/-! ### No lost update -/

/-- Writers who expect a version do not overwrite each other in these turns. -/
structure LosesNoUpdate (ts : Turns κ) (j : Journal) : Prop where
  /-- One version of a stream is claimed by one append at most. -/
  exact_once : ∀ id v,
    (dialogue ts j).Pairwise fun x y => x.2.Wins id (.exact v) → ¬ y.2.Wins id (.exact v)
  /-- A stream is begun by one append at most that expects it to be new. -/
  noStream_once : ∀ id,
    (dialogue ts j).Pairwise fun x y => x.2.Wins id .noStream → ¬ y.2.Wins id .noStream
  /-- If a client sees version `c` and later writes the next one, then nobody else has written
  in between. -/
  unspoiled : ∀ before who x between y after id c a r,
    dialogue ts j = before ++ (who, x) :: (between ++ (who, y) :: after) →
    x.observed? = some (id, c) → y.commit? = some (a, r) → a.stream = id →
    a.expected = .nextAfter c →
    (∀ z ∈ between, ¬ z.2.Commits id) ∧ r.firstVersion = some (c + 1)
  /-- As long as the version is still `c` and the stream is not closed, the next one can be
  written. -/
  granted : ∀ before after a c, ts = before ++ after → a.WellFormed →
    (make before j).statusOf a.stream ≠ .tombstoned → (make before j).version a.stream = c →
    a.expected = .nextAfter c → ∃ r, ((make before j).append a).1 = .ok r

/-- **No update is lost**, whoever takes turns in whatever order. -/
theorem losesNoUpdate (ts : Turns κ) (j : Journal) : LosesNoUpdate ts j where
  exact_once id v := by
    apply pairwise_not_wins
    simp only [ExpectedVersion.matches_exact]
    omega
  noStream_once id := by
    apply pairwise_not_wins
    simp only [ExpectedVersion.matches_noStream]
    omega
  unspoiled := by
    rintro before who x between y after id c a r hts hx hy rfl hexp
    obtain ⟨ts₀, ts₁, rfl, -, h₁⟩ := dialogue_eq_append hts
    obtain ⟨call, ts₂, rfl, rfl, h₂⟩ := eq_cons_of_dialogue h₁
    obtain ⟨ts₃, ts₄, rfl, rfl, h₄⟩ := dialogue_eq_append h₂
    obtain ⟨call', ts₅, rfl, rfl, -⟩ := eq_cons_of_dialogue h₄
    -- the version was `c` after the first of the two turns, and is `c` before the second
    have hseen := Call.version_of_observed? hx
    obtain ⟨hwf, href, hcommits⟩ := Call.commits_of_commit? hy
    have hmet := (Journal.refusal?_eq_none_iff.1 href).2
    rw [hexp, ExpectedVersion.matches_nextAfter] at hmet
    refine ⟨not_commits_of_version_eq (hmet.trans hseen.symm), ?_⟩
    rw [hcommits.firstVersion hwf, hmet]
  granted := by
    rintro before after a c - hwf hstatus hversion hexp
    rcases Journal.append_cases (make before j) a with ⟨e, he, -⟩ | ⟨-, -, happ⟩
    · -- there is nothing to refuse it for
      have hmatches : a.expected.Matches ((make before j).version a.stream) := by
        rw [hexp, ExpectedVersion.matches_nextAfter, hversion]
      rw [Append.flaw?_eq_none_iff.2 hwf, Option.none_or,
        Journal.refusal?_eq_none_iff.2 ⟨hstatus, hmatches⟩] at he
      cases he
    · rw [happ]
      exact ⟨_, rfl⟩

end Turns

end EventJournal
