/-
EventJournal/Proofs/Projection/Stamps.lean

What a reaction does to the world depends on the stamps of entries only as far as the
projection looks at them.

A mask leaves of every stamp what can be told of it (`Mask`).  Two worlds are alike if they
look the same behind the mask: with `Mask.clear`, which hides nothing, they have the same
stamps, and with `Mask.blind` their stamps may be any.  A projection is handed entries with
their stamps and may keep them, so its states are compared up to an equivalence.  It
respects a mask if it does the same whenever all that it is handed and has kept looks the
same (`Projection.Respects`).  A reaction goes on with the answer of the journal, and so
two reactions are alike if they do the same and go on alike after any two answers that
look the same (`Reaction.Alike`).

Main results: reactions that are alike have the same outcome and leave worlds that are
alike (`Reaction.Alike.run`).  Every projection respects the mask that hides nothing
(`Projection.respects_clear`), and scripted ones respect every mask (`Script.respects`).
-/
import EventJournal.Projection.Scripted
import Mathlib.Data.List.Basic
import Mathlib.Data.Setoid.Basic
import Mathlib.Order.CompletePartialOrder

namespace EventJournal

/-! ### Masks -/

/-- What can be told of the stamp of the entry at each place. -/
structure Mask where
  reveal : Nat → Stamp → Stamp

namespace Mask

/-- The mask that hides nothing. -/
def clear : Mask := ⟨fun _ stamp => stamp⟩

/-- The mask that hides the stamps altogether. -/
def blind : Mask := ⟨fun _ _ => default⟩

variable (mask : Mask)

/-- An entry behind the mask. -/
def entry (e : Entry) : Entry := { e with stamp := mask.reveal e.globalPosition e.stamp }

def projectable (p : Projectable) : Projectable := { p with entries := p.entries.map mask.entry }

def result (r : AppendResult) : AppendResult := { r with entries := r.entries.map mask.entry }

/-- The record of something pending behind the mask, with the time left out. -/
def outstanding (r : Outstanding) : Outstanding :=
  { r with projectable := mask.projectable r.projectable, since := 0 }

theorem entry_clear : clear.entry = id := rfl

theorem projectable_clear (p : Projectable) : clear.projectable p = p := by
  unfold projectable
  rw [entry_clear, List.map_id]

theorem result_clear (r : AppendResult) : clear.result r = r := by
  unfold result
  rw [entry_clear, List.map_id]

/-- A refusal has no stamps to hide. -/
theorem map_result_clear (answer : Except JournalError AppendResult) :
    answer.map clear.result = answer := by
  cases answer with
  | error e => rfl
  | ok r => exact congrArg Except.ok (result_clear r)

/-- Behind the mask that hides everything, another mask makes no difference. -/
theorem projectable_blind_projectable (p : Projectable) :
    blind.projectable (mask.projectable p) = blind.projectable p := by
  unfold projectable
  rw [List.map_map]
  rfl

variable {mask} {p p' : Projectable}

/-- The identity is in front of the mask. -/
theorem id_eq (h : mask.projectable p = mask.projectable p') : p.id = p'.id := by
  show (mask.projectable p).id = (mask.projectable p').id
  rw [h]

/-- So is why a projectable was handed out, and thereby its routes. -/
theorem becauseOf_eq (h : mask.projectable p = mask.projectable p') :
    p.becauseOf = p'.becauseOf := by
  show (mask.projectable p).becauseOf = (mask.projectable p').becauseOf
  rw [h]

variable (mask) in
theorem globalPosition_projectable (p : Projectable) :
    (mask.projectable p).globalPosition = p.globalPosition := by
  unfold Projectable.globalPosition projectable
  rw [List.head?_map, Option.map_map]
  rfl

theorem globalPosition_eq (h : mask.projectable p = mask.projectable p') :
    p.globalPosition = p'.globalPosition := by
  rw [← globalPosition_projectable mask p, h, globalPosition_projectable]

theorem projectable_ofEntry {e e' : Entry} (h : mask.entry e = mask.entry e') :
    mask.projectable (.ofEntry e) = mask.projectable (.ofEntry e') := congrArg Projectable.ofEntry h

end Mask

/-! ### Journals -/

variable {mask : Mask}

namespace Journal

/-- The journals look the same behind the mask, and go on looking the same. -/
structure Alike (mask : Mask) (j j' : Journal) : Prop where
  log : j.log.map mask.entry = j'.log.map mask.entry
  streams : j.streams = j'.streams
  stamps : ∀ i, mask.reveal i (j.stamps i) = mask.reveal i (j'.stamps i)

namespace Alike

variable {j j' j'' : Journal}

theorem refl (j : Journal) : j.Alike mask j := ⟨rfl, rfl, fun _ => rfl⟩

theorem symm (h : j.Alike mask j') : j'.Alike mask j :=
  ⟨h.log.symm, h.streams.symm, fun i => (h.stamps i).symm⟩

theorem trans (h : j.Alike mask j') (h' : j'.Alike mask j'') : j.Alike mask j'' :=
  ⟨h.log.trans h'.log, h.streams.trans h'.streams, fun i => (h.stamps i).trans (h'.stamps i)⟩

/-- No entry hides behind a mask. -/
theorem length (h : j.Alike mask j') : j.length = j'.length := by
  have hmap := congrArg List.length h.log
  rwa [List.length_map, List.length_map] at hmap

theorem recordOf (h : j.Alike mask j') (id : StreamId) : j.recordOf id = j'.recordOf id := by
  unfold Journal.recordOf
  rw [h.streams]

/-- Stamps are not asked about before an append. -/
theorem refusal? (h : j.Alike mask j') (a : Append) : j.refusal? a = j'.refusal? a := by
  unfold Journal.refusal? statusOf version
  rw [h.recordOf]

/-- The entry at a place of one journal looks like the one at that place of the other. -/
theorem getElem? (h : j.Alike mask j') {i : Nat} {e : Entry} (he : j.log[i]? = some e) :
    ∃ e', j'.log[i]? = some e' ∧ mask.entry e = mask.entry e' := by
  have hmap : (j'.log.map mask.entry)[i]? = some (mask.entry e) := by
    rw [← h.log, List.getElem?_map, he, Option.map_some]
  rw [List.getElem?_map] at hmap
  obtain ⟨e', he', heq⟩ := Option.map_eq_some_iff.1 hmap
  exact ⟨e', he', heq.symm⟩

/-- New entries take the next stamps, and these look the same. -/
theorem entries_commit (h : j.Alike mask j') (a : Append) (current start : Nat) :
    (a.commit j.stamps current start).map mask.entry
      = (a.commit j'.stamps current start).map mask.entry := by
  apply List.ext_getElem
  · simp [Append.commit]
  · intro k _ _
    simp [Append.commit, Mask.entry, h.stamps]

/-- A commit adds entries that look alike to the log and the same positions to the index. -/
theorem commit (h : j.Alike mask j') (a : Append) :
    mask.result (j.commit a).1 = mask.result (j'.commit a).1 ∧
      (j.commit a).2.Alike mask (j'.commit a).2 := by
  have hentries := h.entries_commit a (j'.version a.stream) j'.length
  unfold Journal.commit version
  rw [h.recordOf, h.length]
  refine ⟨?_, ?_, ?_, h.stamps⟩
  · exact congrArg (AppendResult.mk a.stream _) hentries
  · show (j.log ++ _).map _ = (j'.log ++ _).map _
    rw [List.map_append, List.map_append, h.log]
    exact congrArg _ hentries
  · show j.streams.insert _ _ = j'.streams.insert _ _
    rw [h.streams]

/-- The same request is refused for the same reason, or the answers look the same. -/
theorem append (h : j.Alike mask j') (a : Append) :
    (j.append a).1.map mask.result = (j'.append a).1.map mask.result ∧
      (j.append a).2.Alike mask (j'.append a).2 := by
  obtain ⟨hresult, hjournal⟩ := h.commit a
  unfold Journal.append
  rw [h.refusal?]
  cases a.flaw?.or (j'.refusal? a) with
  | some e => exact ⟨rfl, h⟩
  | none => exact ⟨congrArg Except.ok hresult, hjournal⟩

end Alike

end Journal

/-! ### Confirmations -/

namespace Confirmations

/-- The same is confirmed, and the same is pending for the same number of attempts. -/
structure Alike (mask : Mask) (c c' : Confirmations) : Prop where
  pending : ∀ id, (c.pending.get? id).map mask.outstanding
    = (c'.pending.get? id).map mask.outstanding
  confirmed : c.confirmed = c'.confirmed

namespace Alike

variable {c c' c'' : Confirmations}

theorem refl (c : Confirmations) : c.Alike mask c := ⟨fun _ => rfl, rfl⟩

theorem symm (h : c.Alike mask c') : c'.Alike mask c :=
  ⟨fun id => (h.pending id).symm, h.confirmed.symm⟩

theorem trans (h : c.Alike mask c') (h' : c'.Alike mask c'') : c.Alike mask c'' :=
  ⟨fun id => (h.pending id).trans (h'.pending id), h.confirmed.trans h'.confirmed⟩

theorem attempts? (h : c.Alike mask c') (id : ProjectableId) :
    c.attempts? id = c'.attempts? id := by
  have hattempts (r : Option Outstanding) :
      r.map Outstanding.attempts = (r.map mask.outstanding).map Outstanding.attempts := by
    cases r <;> rfl
  unfold Confirmations.attempts?
  rw [hattempts, h.pending, ← hattempts]

theorem confirm (h : c.Alike mask c') {p p' : Projectable} (hp : p.id = p'.id) :
    (c.confirm p).Alike mask (c'.confirm p') where
  pending id := by
    simp only [Confirmations.confirm, Table.get?_erase, hp]
    split
    · rfl
    · exact h.pending id
  confirmed := by simp only [Confirmations.confirm, h.confirmed, hp]

/-- The time does not matter for what is pending. -/
theorem markPending (h : c.Alike mask c') (now now' : Int) {p p' : Projectable}
    (hp : mask.projectable p = mask.projectable p') :
    (c.markPending now p).Alike mask (c'.markPending now' p') := by
  -- both sides mark under one identity
  have hid := Mask.id_eq hp
  unfold Confirmations.markPending
  by_cases hconf : c.IsConfirmed p.id
  · have hconf' : c'.IsConfirmed p'.id := by
      unfold IsConfirmed at hconf ⊢
      rwa [← h.confirmed, ← hid]
    rwa [if_pos hconf, if_pos hconf']
  · have hconf' : ¬ c'.IsConfirmed p'.id := by
      unfold IsConfirmed at hconf ⊢
      rwa [← h.confirmed, ← hid]
    rw [if_neg hconf, if_neg hconf']
    refine ⟨fun id => ?_, h.confirmed⟩
    simp only [Table.get?_insert, ← hid]
    split
    · -- the new record counts on from the old one, if there is one
      have hold := h.pending p.id
      rw [Option.map_some, Option.map_some]
      congr 1
      cases hr : c.pending.get? p.id <;> cases hr' : c'.pending.get? p.id <;>
        rw [hr, hr'] at hold
      · simp [Mask.outstanding, hp]
      · cases hold
      · cases hold
      · have hsame := Option.some.inj hold
        simp only [Mask.outstanding, Outstanding.mk.injEq] at hsame
        simp only [Outstanding.again, Mask.outstanding, hsame.1, hsame.2.2]
    · exact h.pending id

end Alike

end Confirmations

/-! ### Reactions -/

section Reactions

variable {σ : Type} [Setoid σ]

/-- The reactions do the same and go on alike whatever the mask hides. -/
inductive Reaction.Alike (mask : Mask) : Reaction σ → Reaction σ → Prop
  | finish (outcome : Except ProjectionError Unit) {state state' : σ} :
      state ≈ state' → Alike mask (.finish outcome state) (.finish outcome state')
  | confirm {p p' : Projectable} {next next' : Reaction σ} :
      p.id = p'.id → Alike mask next next' → Alike mask (.confirm p next) (.confirm p' next')
  | append (request : Append) {next next' : Except JournalError AppendResult → Reaction σ} :
      (∀ answer answer' : Except JournalError AppendResult,
        answer.map mask.result = answer'.map mask.result →
          Alike mask (next answer) (next' answer')) →
      Alike mask (.append request next) (.append request next')

/-- What was done and what came of it look the same. -/
structure Reaction.Result.Alike (mask : Mask) (r r' : Reaction.Result σ) : Prop where
  outcome : r.outcome = r'.outcome
  state : r.state ≈ r'.state
  journal : r.journal.Alike mask r'.journal
  confirmations : r.confirmations.Alike mask r'.confirmations
  confirmed : r.confirmed = r'.confirmed

/-- By induction on what is done: both worlds answer alike, so both reactions go on alike. -/
theorem Reaction.Alike.run {r r' : Reaction σ} (h : r.Alike mask r') {j j' : Journal}
    (hj : j.Alike mask j') {c c' : Confirmations} (hc : c.Alike mask c') :
    (r.run j c).Alike mask (r'.run j' c') := by
  induction h generalizing j j' c c' with
  | finish outcome hstate => exact ⟨rfl, hstate, hj, hc, rfl⟩
  | confirm hid _ ih =>
    obtain ⟨houtcome, hstate, hjournal, hconf, hconfirmed⟩ := ih hj (hc.confirm hid)
    exact ⟨houtcome, hstate, hjournal, hconf, congrArg₂ List.cons hid hconfirmed⟩
  | append request _ ih =>
    -- the two answers may differ in hidden stamps, and the reactions go on alike all the same
    obtain ⟨hanswer, hj'⟩ := hj.append request
    exact ih _ _ hanswer hj' hc

/-- The projection does the same with all that looks the same behind the mask. -/
structure Projection.Respects (mask : Mask) (p : Projection σ) : Prop where
  project : ∀ {q q' : Projectable} {state state' : σ},
    mask.projectable q = mask.projectable q' → state ≈ state' →
      (p.project q state).Alike mask (p.project q' state')
  reset : ∀ {state state' : σ}, state ≈ state' →
    (p.reset state).1 = (p.reset state').1 ∧ (p.reset state).2 ≈ (p.reset state').2

end Reactions

/-! ### Nothing hidden -/

section Clear

variable {σ : Type}

/-- If nothing is hidden, answers that look the same are the same. -/
theorem Reaction.Alike.refl_clear (r : Reaction σ) : @Reaction.Alike σ ⊥ .clear r r := by
  induction r with
  | finish outcome state => exact @Reaction.Alike.finish σ ⊥ .clear outcome state state rfl
  | confirm p next ih => exact @Reaction.Alike.confirm σ ⊥ .clear p p next next rfl ih
  | append request next ih =>
    refine @Reaction.Alike.append σ ⊥ .clear request next next fun answer answer' h => ?_
    rw [Mask.map_result_clear, Mask.map_result_clear] at h
    rw [h]
    exact ih answer'

/-- If nothing is hidden, any projection does the same in the same state. -/
theorem Projection.respects_clear (p : Projection σ) : @Projection.Respects σ ⊥ .clear p := by
  refine @Projection.Respects.mk σ ⊥ .clear p ?_ ?_
  · intro q q' state state' hq hstate
    have hsame : state = state' := hstate
    rw [Mask.projectable_clear, Mask.projectable_clear] at hq
    rw [hq, hsame]
    exact .refl_clear _
  · intro state state' hstate
    have hsame : state = state' := hstate
    rw [hsame]
    exact ⟨rfl, rfl⟩

end Clear

/-! ### Scripts -/

/-- Balances do not go by stamps. -/
theorem Balances.applyEntries_mask (b : Balances) (mask : Mask) (es : List Entry) :
    b.applyEntries (es.map mask.entry) = b.applyEntries es := by
  induction es generalizing b with
  | nil => rfl
  | cons e rest ih =>
    have hentry : b.applyEntry (mask.entry e) = b.applyEntry e := rfl
    rw [List.map_cons, applyEntries, applyEntries, hentry]
    split
    · rfl
    · exact ih _

/-- Identities are in front of every mask, so the same ones are confirmed. -/
theorem Reaction.Alike.confirmAll {σ : Type} [Setoid σ] {next next' : Reaction σ}
    (h : next.Alike mask next') {ps ps' : List Projectable}
    (hps : ps.map Mask.blind.projectable = ps'.map Mask.blind.projectable) :
    (Reaction.confirmAll next ps).Alike mask (Reaction.confirmAll next' ps') := by
  induction ps generalizing ps' with
  | nil =>
    rw [List.map_nil] at hps
    rw [List.map_eq_nil_iff.1 hps.symm]
    exact h
  | cons p rest ih =>
    obtain ⟨p', rest', rfl, hp, hrest⟩ := List.map_eq_cons_iff.1 hps.symm
    exact .confirm (Mask.id_eq hp.symm) (ih hrest.symm)

namespace Script

/-- The state with the stamps of what was seen left out. -/
def State.unstamped (st : State) : State :=
  { st with seen := st.seen.map Mask.blind.projectable }

/-- States of scripts are compared with the stamps left out. -/
instance : Setoid State := Setoid.ker State.unstamped

/-- States are equivalent if they differ in the stamps of what was seen. -/
theorem State.equiv_iff {st st' : State} :
    st ≈ st' ↔ ∃ seen, st' = { st with seen } ∧
      st.seen.map Mask.blind.projectable = seen.map Mask.blind.projectable := by
  constructor
  · intro h
    have heq : st.unstamped = st'.unstamped := h
    simp only [unstamped, State.mk.injEq] at heq
    obtain ⟨hseen, hactions, hcount, hresets, hbalances⟩ := heq
    exact ⟨st'.seen, by rw [hactions, hcount, hresets, hbalances], hseen⟩
  · rintro ⟨seen, rfl, hseen⟩
    show st.unstamped = State.unstamped { st with seen }
    rw [unstamped, unstamped, hseen]

variable {p p' : Projectable} {st st' : State}

/-- Which action is next does not depend on what was seen before. -/
theorem nextAction_alike (s : Script) (hp : mask.projectable p = mask.projectable p')
    (hst : st ≈ st') : (s.nextAction p st).1 = (s.nextAction p' st').1 ∧
      (s.nextAction p st).2 ≈ (s.nextAction p' st').2 := by
  obtain ⟨seen, rfl, hseen⟩ := State.equiv_iff.1 hst
  unfold nextAction
  rw [Mask.becauseOf_eq hp]
  dsimp only
  -- the next action is told by the reasons first, and only then by the count
  split
  · exact ⟨rfl, hst⟩
  · split
    · exact ⟨rfl, State.equiv_iff.2 ⟨seen, rfl, hseen⟩⟩
    · exact ⟨rfl, hst⟩

/-- An action goes by identities and by whether its append is refused, never by stamps. -/
theorem act_alike (hp : mask.projectable p = mask.projectable p') (hst : st ≈ st')
    (action : Action) : (act p st action).Alike mask (act p' st' action) := by
  have hid := Mask.id_eq hp
  cases action with
  | confirm => exact .confirm hid (.finish _ hst)
  | silent => exact .finish _ hst
  | confirmSeen =>
    refine Reaction.Alike.confirmAll (.finish _ hst) ?_
    obtain ⟨seen, rfl, hseen⟩ := State.equiv_iff.1 hst
    rw [List.map_reverse, List.map_reverse, hseen]
  | fail e => exact .finish _ hst
  | confirmThenFail e => exact .confirm hid (.finish _ hst)
  | append request =>
    -- answers that look the same are both refusals or both commits
    refine .append request fun answer answer' h => ?_
    cases answer with
    | error e =>
      cases answer' with
      | error e' =>
        cases h
        exact .finish _ hst
      | ok r' => cases h
    | ok r =>
      cases answer' with
      | error e' => cases h
      | ok r' => exact .confirm hid (.finish _ hst)

/-- What a script does does not depend on stamps. -/
theorem respects (s : Script) (mask : Mask) : s.projection.Respects mask where
  project {p p' st st'} hp hst := by
    obtain ⟨seen, rfl, hseen⟩ := State.equiv_iff.1 hst
    -- balances go by types and data
    have hbalances : st.balances.applyEntries p.entries = st.balances.applyEntries p'.entries := by
      rw [← Balances.applyEntries_mask _ mask, ← Balances.applyEntries_mask _ mask p'.entries]
      exact congrArg (fun q => st.balances.applyEntries q.entries) hp
    show (s.follow p st).Alike mask (s.follow p' { st with seen })
    unfold follow
    dsimp only
    rw [hbalances]
    generalize (if s.keepsBalances = true then st.balances.applyEntries p'.entries
      else (.ok (), st.balances)) = kept
    -- what is handed over is remembered, and states are compared without stamps
    have hblind : Mask.blind.projectable p = Mask.blind.projectable p' := by
      rw [← Mask.projectable_blind_projectable mask, hp, Mask.projectable_blind_projectable]
    have hst' : ({ st with seen := p :: st.seen, balances := kept.2 } : State)
        ≈ { st with seen := p' :: seen, balances := kept.2 } :=
      State.equiv_iff.2 ⟨p' :: seen, rfl, by rw [List.map_cons, List.map_cons, hblind, hseen]⟩
    obtain ⟨haction, hnext⟩ := s.nextAction_alike hp hst'
    split
    · exact .finish _ hst'
    · rw [haction]
      exact act_alike hp hnext _
  reset {st st'} hst := by
    obtain ⟨seen, rfl, hseen⟩ := State.equiv_iff.1 hst
    show (Script.reset st).1 = (Script.reset { st with seen }).1 ∧
      (Script.reset st).2 ≈ (Script.reset { st with seen }).2
    unfold Script.reset
    dsimp only
    split <;> exact ⟨rfl, State.equiv_iff.2 ⟨seen, rfl, hseen⟩⟩

end Script

end EventJournal
