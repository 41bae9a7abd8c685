/-
EventJournal/Proofs/Dispatch/Identity.lean

One identity, one entry.

The bookkeeping knows an entry by its type, its stream and its version; the place in the
journal is not part of the identity.  That is enough, since a journal gives each version of
a stream to one entry (`Journal.Indexed.eq_of_id`).

Reading on hands out entries, and what is handed out again was an entry when it was handed
out first, so the bookkeeping is only ever about entries of the journal.  `Site.Files` says
this of a stretch of work: what it handed out are entries, and what the bookkeeping tracks
afterwards it tracked before, or the work found somebody to get it.  A projection that
confirms something else than it was handed would add what nobody routed; hence the condition
on the trace (`ConfirmsOwn`).

Main result: in every run with a new bookkeeping, in which projections confirm what they
are handed and nobody hands out anything by hand, an entry is confirmed exactly if a
projection confirmed it when it was handed that entry, and what is pending and what is
confirmed add up to the places that were routed (`tellsApart_run`).
-/
import EventJournal.Projection.Scripted
import EventJournal.Proofs.Confirmations.Tracking
import EventJournal.Proofs.Dispatch.Watch

namespace EventJournal

variable {ι σ : Type}

/-! ### Entries -/

namespace Journal

variable {j j' : Journal} {e e' : Entry}

/-- A version of a stream belongs to one entry. -/
theorem Indexed.eq_of_streamVersion (h : j.Indexed) (he : e ∈ j.log) (he' : e' ∈ j.log)
    (hstream : e.stream = e'.stream) (hversion : e.streamVersion = e'.streamVersion) : e = e' := by
  have hmem : e ∈ entriesIn j.log e.stream := List.mem_filter.2 ⟨he, by simp⟩
  have hmem' : e' ∈ entriesIn j.log e.stream := List.mem_filter.2 ⟨he', by simp [hstream]⟩
  obtain ⟨k, hk⟩ := List.mem_iff_getElem?.1 hmem
  obtain ⟨k', hk'⟩ := List.mem_iff_getElem?.1 hmem'
  have hkk' : k + 1 = k' + 1 := by
    rw [← (h.streamVersion_eq hk).2, ← (h.streamVersion_eq hk').2, hversion]
  obtain rfl : k = k' := Nat.succ.inj hkk'
  exact Option.some.inj (hk.symm.trans hk')

/-- Different entries have different identities. -/
theorem Indexed.eq_of_id (h : j.Indexed) (he : e ∈ j.log) (he' : e' ∈ j.log)
    (hid : (Projectable.ofEntry e).id = (Projectable.ofEntry e').id) : e = e' := by
  obtain ⟨-, hname, hversion⟩ := ProjectableId.mk.inj hid
  -- two streams of one name are one stream
  refine h.eq_of_streamVersion he he' ?_ hversion
  cases hs : e.stream
  cases hs' : e'.stream
  rw [hs, hs'] at hname
  exact congrArg StreamId.mk hname

/-- The place that an entry carries is where it stands. -/
theorem Indexed.getElem?_globalPosition (h : j.Indexed) (he : e ∈ j.log) :
    j.log[e.globalPosition]? = some e := by
  obtain ⟨i, hi⟩ := List.mem_iff_getElem?.1 he
  rw [h.globalPosition_eq hi, hi]

/-- The projectable is a single entry of the journal. -/
def Holds (j : Journal) (p : Projectable) : Prop := ∃ e ∈ j.log, p = .ofEntry e

/-- Entries stay in a journal that is extended. -/
theorem Extends.holds (h : j.Extends j') {p : Projectable} (hp : j.Holds p) : j'.Holds p := by
  obtain ⟨e, he, rfl⟩ := hp
  exact ⟨e, h.log_prefix.subset he, rfl⟩

end Journal

/-! ### The bookkeeping -/

namespace Confirmations

variable {c : Confirmations} {id : ProjectableId}

/-- Marking adds one identity to what is tracked. -/
theorem tracks_markPending_iff {now : Int} {p : Projectable} :
    (c.markPending now p).Tracks id ↔ id = p.id ∨ c.Tracks id := by
  constructor
  · by_cases hp : c.IsConfirmed p.id
    · rw [markPending_of_isConfirmed now hp]
      exact Or.inr
    · rintro (h | h)
      · exact ((isPending_markPending hp).1 h).imp_right Or.inl
      · exact Or.inr (Or.inr (isConfirmed_markPending.1 h))
  · rintro (rfl | h)
    · exact tracks_markPending ..
    · exact h.markPending now p

/-- Confirming adds nobody but the identity confirmed. -/
theorem tracks_of_confirm {p : Projectable} (h : (c.confirm p).Tracks id) :
    id = p.id ∨ c.Tracks id := by
  rcases h with h | h
  · exact Or.inr (Or.inl (isPending_confirm.1 h).2)
  · exact (isConfirmed_confirm.1 h).imp_right Or.inr

/-- Marking writes the projectable into one record at most. -/
theorem projectable_of_markPending {now : Int} {p : Projectable} {r : Outstanding}
    (h : (c.markPending now p).pending.get? id = some r) :
    r.projectable = p ∨ ∃ r', c.pending.get? id = some r' ∧ r'.projectable = r.projectable := by
  by_cases hp : c.IsConfirmed p.id
  · rw [markPending_of_isConfirmed now hp] at h
    exact Or.inr ⟨r, h, rfl⟩
  · rw [get?_markPending hp] at h
    split at h
    · rename_i hid
      cases h
      split
      · exact Or.inl rfl
      · rename_i r' hr'
        exact Or.inr ⟨r', hid ▸ hr', rfl⟩
    · exact Or.inr ⟨r, h, rfl⟩

end Confirmations

namespace Reaction

/-- A reaction adds what it confirms to what is tracked. -/
theorem tracks_of_run (r : Reaction σ) (j : Journal) {c : Confirmations} {id : ProjectableId}
    (h : (r.run j c).confirmations.Tracks id) : c.Tracks id ∨ id ∈ (r.run j c).confirmed := by
  induction r generalizing j c with
  | finish outcome state => exact Or.inl h
  | confirm p next ih =>
    rcases ih j h with htracks | hmem
    · rcases Confirmations.tracks_of_confirm htracks with rfl | htracks
      · exact Or.inr List.mem_cons_self
      · exact Or.inl htracks
    · exact Or.inr (List.mem_cons_of_mem _ hmem)
  | append request next ih => exact ih _ _ h

/-- A reaction makes no records. -/
theorem get?_of_run (r : Reaction σ) (j : Journal) {c : Confirmations} {id : ProjectableId}
    {record : Outstanding} (h : (r.run j c).confirmations.pending.get? id = some record) :
    c.pending.get? id = some record := by
  induction r generalizing j c with
  | finish outcome state => exact h
  | confirm p next ih =>
    have hconfirm := ih j h
    simp only [Confirmations.confirm, Table.get?_erase] at hconfirm
    split at hconfirm
    · cases hconfirm
    · exact hconfirm
  | append request next ih => exact ih _ _ h

/-- What is confirmed is listed once, however often a reaction confirms it. -/
theorem nodup_run (r : Reaction σ) (j : Journal) {c : Confirmations} (h : c.confirmed.Nodup) :
    (r.run j c).confirmations.confirmed.Nodup := by
  induction r generalizing j c with
  | finish outcome state => exact h
  | confirm p next ih => exact ih j h.insert
  | append request next ih => exact ih _ _ h

end Reaction

/-! ### Traces -/

/-- A projection confirms nothing but what it is handed. -/
def Occurrence.ConfirmsOwn : Occurrence ι → Prop
  | .invoked _ p confirmed _ => ∀ id ∈ confirmed, id = p.id
  | _ => True

instance (o : Occurrence ι) : Decidable o.ConfirmsOwn :=
  match o with
  | .invoked _ p confirmed _ => inferInstanceAs (Decidable (∀ id ∈ confirmed, id = p.id))
  | .dispatched _ _ | .redispatched _ _ | .wasReset _ _ | .decided _ _ _ _ _ => isTrue trivial

/-- All projections confirm nothing but what they are handed. -/
def ConfirmsOwn (T : List (Occurrence ι)) : Prop := ∀ o ∈ T, o.ConfirmsOwn

instance (T : List (Occurrence ι)) : Decidable (ConfirmsOwn T) :=
  inferInstanceAs (Decidable (∀ o ∈ T, o.ConfirmsOwn))

/-- A dispatch of the projectable, in its turn or again, ended like this. -/
def Occurrence.Reports (o : Occurrence ι) (p : Projectable)
    (outcome : Except DispatchError Nat) : Prop :=
  o = .dispatched p outcome ∨ o = .redispatched p outcome

/-- A dispatch that ended like this found somebody: all handled what they got, or one of them
failed at it. -/
def FoundSomebody : Except DispatchError Nat → Prop
  | .ok n => n ≠ 0
  | .error e => e ≠ .routing .poisoned

/-- A dispatch of the projectable found somebody to get it. -/
def RoutedIn (T : List (Occurrence ι)) (p : Projectable) : Prop :=
  ∃ o ∈ T, ∃ outcome, o.Reports p outcome ∧ FoundSomebody outcome

/-- An occurrence reports one dispatch. -/
theorem Occurrence.Reports.unique {o : Occurrence ι} {p q : Projectable}
    {outcome outcome' : Except DispatchError Nat} (h : o.Reports p outcome)
    (h' : o.Reports q outcome') : q = p ∧ outcome' = outcome := by
  rcases h with rfl | rfl <;> rcases h' with h' | h' <;> cases h' <;> exact ⟨rfl, rfl⟩

theorem Occurrence.Reports.ne_invoked {o : Occurrence ι} {p : Projectable}
    {outcome : Except DispatchError Nat} (h : o.Reports p outcome) (i : ι) (q : Projectable)
    (confirmed : List ProjectableId) (outcome' : Except ProjectionError Unit) :
    o ≠ .invoked i q confirmed outcome' := by
  rintro rfl
  rcases h with h | h <;> cases h

/-- A trace that is put together keeps to the condition if its parts do. -/
theorem confirmsOwn_append {T U : List (Occurrence ι)} :
    ConfirmsOwn (T ++ U) ↔ ConfirmsOwn T ∧ ConfirmsOwn U := List.forall_mem_append

/-- A place routed on the way was routed in one of the stretches. -/
theorem routedIn_append {T U : List (Occurrence ι)} {p : Projectable} :
    RoutedIn (T ++ U) p ↔ RoutedIn T p ∨ RoutedIn U p := by
  simp only [RoutedIn, List.mem_append, or_and_right, exists_or]

/-- Nothing is handed out here: a projection was reset, or a supervisor decided. -/
def Occurrence.IsQuiet : Occurrence ι → Prop
  | .wasReset _ _ | .decided _ _ _ _ _ => True
  | _ => False

namespace Site

/-! ### Handing out one projectable -/

/-- Projections were handed a projectable that was tracked before. -/
structure Hands (s s' : Site ι σ) (p : Projectable) (T : List (Occurrence ι)) : Prop
    extends Onward s s' T where
  invoked : ∀ o ∈ T, ∃ i confirmed outcome, o = .invoked i p confirmed outcome
  records : ∀ id r, s'.confirmations.pending.get? id = some r →
    s.confirmations.pending.get? id = some r
  nodup : s.confirmations.confirmed.Nodup → s'.confirmations.confirmed.Nodup
  traced : ConfirmsOwn T → ∀ id, s'.confirmations.Tracks id → s.confirmations.Tracks id

theorem Hands.refl (s : Site ι σ) (p : Projectable) : s.Hands s p [] where
  toOnward := .refl s
  invoked _ ho := by cases ho
  records _ _ hr := hr
  nodup hs := hs
  traced _ _ hid := hid

/-- To hand a projectable to some and then to others is to hand it to all of them. -/
theorem Hands.trans {s s' s'' : Site ι σ} {p : Projectable} {T U : List (Occurrence ι)}
    (h : s.Hands s' p T) (h' : s'.Hands s'' p U) : s.Hands s'' p (T ++ U) where
  toOnward := h.toOnward.trans h'.toOnward
  invoked o ho := (List.mem_append.1 ho).elim (h.invoked o) (h'.invoked o)
  records id r hr := h.records id r (h'.records id r hr)
  nodup hs := h'.nodup (h.nodup hs)
  traced hown id hid := by
    obtain ⟨hT, hU⟩ := confirmsOwn_append.1 hown
    exact h.traced hT id (h'.traced hU id hid)

/-- Nothing but the projectable is routed where it is handed out and the outcome is noted. -/
theorem Hands.eq_of_routedIn {s s' : Site ι σ} {p q : Projectable} {T : List (Occurrence ι)}
    {o : Occurrence ι} {outcome : Except DispatchError Nat} (h : s.Hands s' p T)
    (ho : o.Reports p outcome) (hq : RoutedIn (T ++ [o]) q) : q = p := by
  rcases routedIn_append.1 hq with ⟨o', ho', out, hreports, -⟩ | ⟨o', ho', out, hreports, -⟩
  · obtain ⟨i, confirmed, out', heq⟩ := h.invoked o' ho'
    exact absurd heq (hreports.ne_invoked i p confirmed out')
  · rw [List.mem_singleton.1 ho'] at hreports
    exact (ho.unique hreports).1

/-! ### Handing out entries -/

/-- Every record is of an entry of the journal. -/
def RecordsEntries (s : Site ι σ) : Prop :=
  ∀ id r, s.confirmations.pending.get? id = some r → s.journal.Holds r.projectable

/-- Work that hands out entries of the journal only. -/
structure Files (s s' : Site ι σ) (T : List (Occurrence ι)) : Prop extends Onward s s' T where
  records : s.RecordsEntries → s'.RecordsEntries
  nodup : s.confirmations.confirmed.Nodup → s'.confirmations.confirmed.Nodup
  entries : ∀ i p confirmed outcome, Occurrence.invoked i p confirmed outcome ∈ T →
    s'.journal.Holds p
  routed : ∀ p, RoutedIn T p → s'.journal.Holds p ∧ s'.confirmations.Tracks p.id
  /-- What is tracked was tracked before, or it was routed. -/
  traced : ConfirmsOwn T → ∀ id, s'.confirmations.Tracks id →
    s.confirmations.Tracks id ∨ ∃ p, RoutedIn T p ∧ p.id = id

namespace Files

variable {s s' s'' : Site ι σ} {T U : List (Occurrence ι)}

/-- The entries of the first stretch are entries still when the second one is through. -/
theorem trans (h : s.Files s' T) (h' : s'.Files s'' U) : s.Files s'' (T ++ U) where
  toOnward := h.toOnward.trans h'.toOnward
  records hs := h'.records (h.records hs)
  nodup hs := h'.nodup (h.nodup hs)
  entries i p confirmed outcome hmem := by
    rcases List.mem_append.1 hmem with hmem | hmem
    · exact h'.journal.holds (h.entries i p confirmed outcome hmem)
    · exact h'.entries i p confirmed outcome hmem
  routed p hp := by
    rcases routedIn_append.1 hp with hp | hp
    · obtain ⟨hholds, htracks⟩ := h.routed p hp
      exact ⟨h'.journal.holds hholds, h'.tracked _ htracks⟩
    · exact h'.routed p hp
  traced hown id hid := by
    obtain ⟨hT, hU⟩ := confirmsOwn_append.1 hown
    rcases h'.traced hU id hid with hid | ⟨p, hp, hpid⟩
    · rcases h.traced hT id hid with hid | ⟨p, hp, hpid⟩
      · exact Or.inl hid
      · exact Or.inr ⟨p, routedIn_append.2 (Or.inl hp), hpid⟩
    · exact Or.inr ⟨p, routedIn_append.2 (Or.inr hp), hpid⟩

/-- Work that hands out nothing and leaves the bookkeeping alone. -/
theorem of_quiet (h : s.Onward s' T) (hc : s'.confirmations = s.confirmations)
    (hT : ∀ o ∈ T, o.IsQuiet) : s.Files s' T where
  toOnward := h
  records hs id r hr := h.journal.holds (hs id r (hc ▸ hr))
  nodup hs := hc ▸ hs
  entries i p confirmed outcome hmem := (hT _ hmem).elim
  routed p hp := by
    obtain ⟨o, ho, outcome, rfl | rfl, -⟩ := hp
    · exact (hT _ ho).elim
    · exact (hT _ ho).elim
  traced _ id hid := Or.inl (hc ▸ hid)

theorem of_eq (hj : s.journal.Extends s'.journal) (hc : s'.confirmations = s.confirmations)
    (ht : s'.trace = s.trace) : s.Files s' [] :=
  of_quiet (.of_eq hj hc ht) hc (by simp)

theorem refl (s : Site ι σ) : s.Files s [] := of_eq (.refl _) rfl rfl

theorem seek (s : Site ι σ) (position : Nat) : s.Files (s.seek position) [] :=
  of_eq (.refl _) rfl rfl

theorem decided (s : Site ι σ) (round : Round) (time : Nat) (e : DispatchError) (attempt : Nat)
    (directive : Directive) :
    s.Files (s.note (.decided round time e attempt directive))
      [.decided round time e attempt directive] :=
  of_quiet (.note s (by simp)) rfl (by simp [Occurrence.IsQuiet])

/-- An entry is marked and handed to those who get it, and the outcome is noted.  The three
belong together: what is marked is tracked at once, but routed only when the outcome is noted. -/
theorem of_hands {r : Router ι} {p : Projectable} {o : Occurrence ι}
    {outcome : Except DispatchError Nat} (hp : s.journal.Holds p)
    (h : Hands { s with router := r, confirmations := s.confirmations.markPending s.now p } s' p T)
    (ho : o.Reports p outcome) (hfound : FoundSomebody outcome) :
    s.Files (s'.note o) (T ++ [o]) := by
  have hroute : s.Onward { s with router := r } [] := .of_eq (.refl _) rfl rfl
  have hmark := hroute.trans (Dispatcher.onward_mark _ p)
  have hnote : s'.Onward (s'.note o) [o] := .note s' ho.ne_invoked
  have honward : s.Onward (s'.note o) (T ++ [o]) := (hmark.trans h.toOnward).trans hnote
  have hrouted : RoutedIn (T ++ [o]) p :=
    routedIn_append.2 (Or.inr ⟨o, List.mem_singleton_self o, outcome, ho, hfound⟩)
  refine ⟨honward, ?_, ?_, ?_, ?_, ?_⟩
  · -- the record is the one just written, or it was there before
    intro hs id record hr
    rcases Confirmations.projectable_of_markPending (h.records id record hr) with
      heq | ⟨record', hr', heq⟩
    · exact heq ▸ honward.journal.holds hp
    · exact heq ▸ honward.journal.holds (hs id record' hr')
  · intro hs
    refine h.nodup ?_
    rwa [Confirmations.confirmed_markPending]
  · intro i q confirmed out hmem
    rcases List.mem_append.1 hmem with hmem | hmem
    · obtain ⟨_, _, _, heq⟩ := h.invoked _ hmem
      cases heq
      exact honward.journal.holds hp
    · exact absurd (List.mem_singleton.1 hmem).symm (ho.ne_invoked i q confirmed out)
  · intro q hq
    rw [h.eq_of_routedIn ho hq]
    exact ⟨honward.journal.holds hp, h.tracked _ (Confirmations.tracks_markPending ..)⟩
  · -- what is tracked was so when it was handed out, so it was marked just now or tracked before
    intro hown id hid
    rcases Confirmations.tracks_markPending_iff.1
        (h.traced (confirmsOwn_append.1 hown).1 id hid) with rfl | hid
    · exact Or.inr ⟨p, hrouted, rfl⟩
    · exact Or.inl hid

/-- A dispatch that finds nobody is noted. -/
theorem of_unrouted {r : Router ι} {p : Projectable} {o : Occurrence ι}
    {outcome : Except DispatchError Nat} (ho : o.Reports p outcome)
    (hnobody : ¬ FoundSomebody outcome) : s.Files ({ s with router := r }.note o) [o] := by
  have hroute : s.Onward { s with router := r } [] := .of_eq (.refl _) rfl rfl
  have hnone : ∀ q, ¬ RoutedIn [o] q := by
    rintro q ⟨o', ho', out, hreports, hfound⟩
    rw [List.mem_singleton.1 ho'] at hreports
    rw [(ho.unique hreports).2] at hfound
    exact hnobody hfound
  refine ⟨hroute.trans (.note _ ho.ne_invoked), fun hs => hs, fun hs => hs, ?_, ?_, ?_⟩
  · intro i q confirmed out hmem
    exact absurd (List.mem_singleton.1 hmem).symm (ho.ne_invoked i q confirmed out)
  · exact fun q hq => absurd hq (hnone q)
  · exact fun _ id hid => Or.inl hid

end Files

end Site

/-! ### The functions of a dispatcher -/

namespace Dispatcher

variable [DecidableEq ι]

/-- One projection gets the projectable.  It makes no records, and what it confirms was tracked. -/
theorem hands_invoke (d : Dispatcher ι σ) (i : ι) {p : Projectable} {s : Site ι σ}
    (h : s.confirmations.Tracks p.id) :
    s.Hands (d.invoke i p s).2 p
      [.invoked i p (d.reaction i p s).confirmed (d.reaction i p s).outcome] where
  toOnward := onward_invoke s i h
  invoked o ho := ⟨i, _, _, List.mem_singleton.1 ho⟩
  records id r hr := Reaction.get?_of_run _ _ hr
  nodup hs := Reaction.nodup_run _ _ hs
  traced hown id hid := by
    rcases Reaction.tracks_of_run _ _ hid with hid | hid
    · exact hid
    · rw [hown _ List.mem_cons_self id hid]
      exact h

/-- Induction on those who get it: the first that fails ends the list. -/
theorem hands_invokeAll (d : Dispatcher ι σ) (p : Projectable) (is : List ι) {s : Site ι σ}
    (h : s.confirmations.Tracks p.id) : ∃ T, s.Hands (d.invokeAll p is s).2 p T := by
  induction is generalizing s with
  | nil => exact ⟨[], .refl s p⟩
  | cons i rest ih =>
    have hfirst := hands_invoke d i h
    rw [invokeAll]
    split <;> rename_i heq <;> rw [heq] at hfirst
    · exact ⟨_, hfirst⟩
    · obtain ⟨T, hT⟩ := ih (hfirst.tracked _ h)
      exact ⟨_, hfirst.trans hT⟩

/-- A dispatch that cannot ask for anybody changes nothing, and one that finds nobody changes
nothing but the memory of the router.  Any other marks the projectable and hands it out. -/
theorem dispatch_cases (d : Dispatcher ι σ) (p : Projectable) (s : Site ι σ) :
    ((s.router.matching p.becauseOf).1 = .error .poisoned ∧
      d.dispatch p s = (.error (.routing .poisoned), s)) ∨
    ((s.router.matching p.becauseOf).1 = .ok [] ∧
      d.dispatch p s = (.ok 0, asked s p.becauseOf)) ∨
    ∃ T, FoundSomebody (d.dispatch p s).1 ∧ (marked s p).Hands (d.dispatch p s).2 p T := by
  have hall (found : List ι) : ∃ T, (marked s p).Hands (d.invokeAll p found (marked s p)).2 p T :=
    hands_invokeAll d p found (tracks_marked s p)
  rcases hd : d.dispatch p s with ⟨outcome, s'⟩
  cases Dispatches.of_dispatch hd with
  | refused hanswer => exact Or.inl ⟨hanswer, rfl⟩
  | unrouted hanswer => exact Or.inr (Or.inl ⟨hanswer, rfl⟩)
  | @failed found err _ _ _ hinvoke =>
    obtain ⟨i, -, source, rfl⟩ := exists_of_invokeAll_error hinvoke
    obtain ⟨T, hT⟩ := hall found
    rw [hinvoke] at hT
    exact Or.inr (Or.inr ⟨T, nofun, hT⟩)
  | @handled found _ _ hsome hinvoke =>
    obtain ⟨T, hT⟩ := hall found
    rw [hinvoke] at hT
    exact Or.inr (Or.inr ⟨T, mt List.eq_nil_of_length_eq_zero hsome, hT⟩)

/-- The dispatch of an entry of the journal, noted in either way. -/
theorem files_dispatch (d : Dispatcher ι σ) {p : Projectable} {s : Site ι σ}
    (hp : s.journal.Holds p) {o : Occurrence ι} (ho : o.Reports p (d.dispatch p s).1) :
    ∃ T, s.Files ((d.dispatch p s).2.note o) T := by
  rcases d.dispatch_cases p s with ⟨-, hrefused⟩ | ⟨-, hnone⟩ | ⟨T, hfound, hT⟩
  · rw [hrefused] at ho ⊢
    exact ⟨[o], .of_unrouted (r := s.router) ho fun h => h rfl⟩
  · rw [hnone] at ho ⊢
    exact ⟨[o], .of_unrouted ho fun h => h rfl⟩
  · exact ⟨T ++ [o], .of_hands hp hT ho hfound⟩

/-- Entries that were read are dispatched in turn, by induction on the rest of the batch. -/
theorem files_dispatchEach (d : Dispatcher ι σ) (es : List Entry) (report : CycleCount)
    {s : Site ι σ} (hes : ∀ e ∈ es, e ∈ s.journal.log) :
    ∃ T, s.Files (d.dispatchEach es report s).2 T := by
  induction es generalizing report s with
  | nil => exact ⟨[], .refl s⟩
  | cons e rest ih =>
    obtain ⟨he, hrest⟩ := List.forall_mem_cons.1 hes
    obtain ⟨T, hT⟩ := d.files_dispatch ⟨e, he, rfl⟩ (Or.inl rfl)
    rw [dispatchEach]
    split <;> rename_i heq <;> rw [heq] at hT
    · -- the batch breaks off: the cursor goes back to this entry
      exact ⟨T ++ [], hT.trans (.seek _ _)⟩
    · have hlog := hT.journal.log_prefix
      obtain ⟨U, hU⟩ := ih (report.count _) fun e' he' => hlog.subset (hrest e' he')
      exact ⟨T ++ U, hT.trans hU⟩

/-- A cycle dispatches what it reads, which is entries of the journal. -/
theorem files_runCycle (d : Dispatcher ι σ) (s : Site ι σ) :
    ∃ T, s.Files (d.runCycle s).2 T := by
  unfold runCycle Site.readNext
  split
  · rename_i heq
    split at heq
    · cases heq
      exact ⟨[], .of_eq (.refl _) rfl rfl⟩
    · cases heq
  · rename_i heq
    split at heq
    · cases heq
    · cases heq
      -- to read moves the cursor and uses up an outage, before anything is handed out
      have hread : s.Files { s with
          outages := s.outages.tail
          cursor := s.cursor + (s.journal.readFrom s.cursor d.config.batchSize).length } [] :=
        .of_eq (.refl _) rfl rfl
      obtain ⟨T, hT⟩ := d.files_dispatchEach (s.journal.readFrom s.cursor d.config.batchSize)
        { read := (s.journal.readFrom s.cursor d.config.batchSize).length }
        (s := { s with
          outages := s.outages.tail
          cursor := s.cursor + (s.journal.readFrom s.cursor d.config.batchSize).length })
        fun e he => List.mem_of_mem_drop (List.mem_of_mem_take he)
      exact ⟨_, hread.trans hT⟩

/-- What was confirmed meanwhile is passed over, and anything else is dispatched. -/
theorem files_redispatch (d : Dispatcher ι σ) {p : Projectable} {s : Site ι σ}
    (hp : s.journal.Holds p) : ∃ T, s.Files (d.redispatch p s).2 T := by
  unfold redispatch
  split
  · exact ⟨[], .refl s⟩
  · exact d.files_dispatch hp (Or.inr rfl)

/-- Each of them is an entry still when its turn comes, for the journal only grows. -/
theorem files_redispatchEach (d : Dispatcher ι σ) (ps : List Projectable) (done : Nat)
    {s : Site ι σ} (hps : ∀ p ∈ ps, s.journal.Holds p) :
    ∃ T, s.Files (d.redispatchEach ps done s).2 T := by
  induction ps generalizing done s with
  | nil => exact ⟨[], .refl s⟩
  | cons p rest ih =>
    obtain ⟨hp, hrest⟩ := List.forall_mem_cons.1 hps
    obtain ⟨T, hT⟩ := d.files_redispatch hp
    rw [redispatchEach]
    split <;> rename_i heq <;> rw [heq] at hT
    · exact ⟨T, hT⟩
    · obtain ⟨U, hU⟩ := ih _ fun q hq => hT.journal.holds (hrest q hq)
      exact ⟨T ++ U, hT.trans hU⟩

/-- What is handed out again stands in the records. -/
theorem files_redispatchOverdue (d : Dispatcher ι σ) {s : Site ι σ} (hs : s.RecordsEntries) :
    ∃ T, s.Files (d.redispatchOverdue s).2 T := by
  refine d.files_redispatchEach _ 0 fun p hp => ?_
  obtain ⟨r, hr, rfl⟩ := List.mem_map.1 hp
  obtain ⟨⟨id, _⟩, hrow, rfl⟩ := List.mem_map.1 (Confirmations.mem_overdueRecords.1 hr).1
  exact hs id _ (Table.get?_eq_some_iff.2 hrow)

/-- To reset a projection hands out nothing. -/
theorem files_resetNamed (d : Dispatcher ι σ) (name : String) (s : Site ι σ) :
    ∃ T, s.Files (d.resetNamed name s).2 T := by
  unfold resetNamed
  split
  · exact ⟨[], .refl s⟩
  · rename_i i _
    have hmemory : s.Files { s with
        memory := s.memory.insert i ((d.projections i).reset (d.stateOf s i)).2 } [] :=
      .of_eq (.refl _) rfl rfl
    exact ⟨_, hmemory.trans (.of_quiet (.note _ (by simp)) rfl (by simp [Occurrence.IsQuiet]))⟩

end Dispatcher

/-! ### Workers -/

namespace Worker

theorem files_place (position : Option Nat) (target : Nat → Nat) (s : Site ι σ) :
    s.Files (place position target s) [] := by
  cases position with
  | none => exact .refl s
  | some p => exact .seek s (target p)

variable [DecidableEq ι]

theorem files_resetFailed (d : Dispatcher ι σ) (e : DispatchError) (s : Site ι σ) :
    ∃ T, s.Files (resetFailed d e s) T := by
  unfold resetFailed
  split
  · exact ⟨[], .refl s⟩
  · exact d.files_resetNamed _ s

/-- A directive moves the cursor or resets a projection. -/
theorem files_obey (d : Dispatcher ι σ) (time : Nat) (e : DispatchError) (attempt : Nat)
    (w : Worker) (s : Site ι σ) (directive : Directive) :
    ∃ T, s.Files (obey d time e attempt w s directive).2 T := by
  cases directive with
  | restart =>
    obtain ⟨T, hT⟩ := files_resetFailed d e s
    exact ⟨T ++ [], hT.trans (files_place ..)⟩
  | _ => exact ⟨[], files_place ..⟩

/-- Behind a recheck the cursor stays. -/
theorem files_obeyRecheck (d : Dispatcher ι σ) (e : DispatchError) (w : Worker) (s : Site ι σ)
    (directive : Directive) : ∃ T, s.Files (obeyRecheck d e w s directive).2 T := by
  cases directive with
  | restart => exact files_resetFailed d e s
  | _ => exact ⟨[], .refl s⟩

/-- A cycle of a worker is a cycle of its dispatcher, and after a failure what it is told. -/
theorem files_cycle (d : Dispatcher ι σ) (decide : Supervisor) (time : Nat) (w : Worker)
    (s : Site ι σ) : ∃ T, s.Files (w.cycle d decide time s).2 T := by
  unfold cycle
  split
  · exact ⟨[], .refl s⟩
  · obtain ⟨T, hT⟩ := d.files_runCycle s
    split <;> rename_i heq <;> rw [heq] at hT
    · exact ⟨T, hT⟩
    · rename_i err s'
      obtain ⟨U, hU⟩ := files_obey d time err (w.attemptAt err.globalPosition) w.fail _ _
      exact ⟨_, (hT.trans (.decided ..)).trans hU⟩

/-- The same for a recheck, whose entries come out of the records. -/
theorem files_recheck (d : Dispatcher ι σ) (decide : Supervisor) (time : Nat) (w : Worker)
    {s : Site ι σ} (hs : s.RecordsEntries) : ∃ T, s.Files (w.recheck d decide time s).2 T := by
  unfold recheck
  split
  · exact ⟨[], .refl s⟩
  · obtain ⟨T, hT⟩ := d.files_redispatchOverdue hs
    split <;> rename_i heq <;> rw [heq] at hT
    · exact ⟨T, hT⟩
    · obtain ⟨U, hU⟩ := files_obeyRecheck d _ w.fail _ _
      exact ⟨_, (hT.trans (.decided ..)).trans hU⟩

end Worker

/-! ### Counting -/

/-- Nothing is tracked twice. -/
theorem Confirmations.encard_tracks {c : Confirmations} (hs : c.Sound)
    (hn : c.confirmed.Nodup) :
    {id | c.Tracks id}.encard = ((c.pendingCount + c.confirmedCount : Nat) : ℕ∞) := by
  have hapart : Disjoint {id | c.IsPending id} {id | c.IsConfirmed id} :=
    Set.disjoint_left.2 hs.apart
  have hpending : {id | c.IsPending id}.encard = c.pendingCount := by
    rw [pendingCount, ← Table.length_keys]
    exact encard_setOf_mem c.pending.nodup
  have hconfirmed : {id | c.IsConfirmed id}.encard = c.confirmedCount := encard_setOf_mem hn
  calc {id | c.Tracks id}.encard
      = ({id | c.IsPending id} ∪ {id | c.IsConfirmed id}).encard := rfl
    _ = {id | c.IsPending id}.encard + {id | c.IsConfirmed id}.encard :=
        Set.encard_union_eq hapart
    _ = ((c.pendingCount + c.confirmedCount : Nat) : ℕ∞) := by
        rw [hpending, hconfirmed, Nat.cast_add]

/-- Some entries of a journal have as many identities as places. -/
theorem Journal.Indexed.encard_ids {j : Journal} (h : j.Indexed) (chosen : Entry → Prop) :
    {id | ∃ e ∈ j.log, chosen e ∧ (Projectable.ofEntry e).id = id}.encard
      = {q : Nat | ∃ e, j.log[q]? = some e ∧ chosen e}.encard := by
  -- both are images of these entries, and both maps tell entries of the journal apart
  have hids : {id | ∃ e ∈ j.log, chosen e ∧ (Projectable.ofEntry e).id = id}
      = (fun e => (Projectable.ofEntry e).id) '' {e | e ∈ j.log ∧ chosen e} := by
    ext id
    simp [and_assoc]
  have hplaces : {q : Nat | ∃ e, j.log[q]? = some e ∧ chosen e}
      = Entry.globalPosition '' {e | e ∈ j.log ∧ chosen e} := by
    ext q
    constructor
    · rintro ⟨e, he, hchosen⟩
      exact ⟨e, ⟨List.mem_of_getElem? he, hchosen⟩, h.globalPosition_eq he⟩
    · rintro ⟨e, ⟨he, hchosen⟩, rfl⟩
      exact ⟨e, h.getElem?_globalPosition he, hchosen⟩
  have hidInj : Set.InjOn (fun e => (Projectable.ofEntry e).id) {e | e ∈ j.log ∧ chosen e} :=
    fun e he e' he' hid => h.eq_of_id he.1 he'.1 hid
  have hplaceInj : Set.InjOn Entry.globalPosition {e | e ∈ j.log ∧ chosen e} := by
    intro e he e' he' hplace
    have hget := h.getElem?_globalPosition he.1
    rw [hplace, h.getElem?_globalPosition he'.1] at hget
    exact (Option.some.inj hget).symm
  rw [hids, hplaces, hidInj.encard_image, hplaceInj.encard_image]

/-! ### Runs -/

/-- Somebody hands out a projectable of his own. -/
def Move.HandsOut : Move ι σ → Prop
  | .dispatch _ | .redispatch _ => True
  | _ => False

namespace Watch

variable [DecidableEq ι] {w : Watch ι σ} {ms : List (Move ι σ)}

/-- A move hands out entries only, if what is recorded are entries. -/
theorem files_make (hs : w.site.RecordsEntries) {m : Move ι σ} (hm : ¬ m.HandsOut) :
    ∃ T, w.site.Files (w.make m).site T := by
  have hsame {s : Site ι σ} (hj : w.site.journal.Extends s.journal)
      (hc : s.confirmations = w.site.confirmations) (ht : s.trace = w.site.trace) :
      ∃ T, w.site.Files s T := ⟨[], .of_eq hj hc ht⟩
  cases m with
  | tick round time =>
    cases round with
    | cycle => exact Worker.files_cycle ..
    | recheck => exact Worker.files_recheck _ _ _ _ hs
  | operate op => exact hsame (Journal.extends_perform ..) rfl rfl
  | dispatch p => exact absurd trivial hm
  | redispatch p => exact absurd trivial hm
  | redispatchOverdue => exact w.dispatcher.files_redispatchOverdue hs
  | reset name => exact w.dispatcher.files_resetNamed name w.site
  | runCycle => exact w.dispatcher.files_runCycle w.site
  | _ => exact hsame (.refl _) rfl rfl

/-- Runs hand out entries only, by induction on the moves. -/
theorem files_run (hs : w.site.RecordsEntries) (hms : ∀ m ∈ ms, ¬ m.HandsOut) :
    w.site.Files (w.run ms).site (w.done ms) := by
  have hrun : ∃ T, w.site.Files (w.run ms).site T := by
    induction ms generalizing w with
    | nil => exact ⟨[], .refl w.site⟩
    | cons m rest ih =>
      obtain ⟨T, hT⟩ := files_make hs (hms m List.mem_cons_self)
      obtain ⟨U, hU⟩ := ih (hT.records hs) fun m' hm' => hms m' (List.mem_cons_of_mem _ hm')
      exact ⟨T ++ U, hT.trans hU⟩
  obtain ⟨T, hT⟩ := hrun
  rwa [done_eq hT.toOnward]

/-- The bookkeeping of a run tells the entries of the journal apart. -/
structure TellsApart (w : Watch ι σ) (ms : List (Move ι σ)) : Prop where
  /-- Different entries have different identities. -/
  distinct : ∀ e ∈ (w.run ms).site.journal.log, ∀ e' ∈ (w.run ms).site.journal.log,
    (Projectable.ofEntry e).id = (Projectable.ofEntry e').id → e = e'
  /-- An entry is confirmed if some projection confirmed it when it was handed this entry, and
  not otherwise. -/
  confirmed : ∀ (q : Nat) (e : Entry), (w.run ms).site.journal.log[q]? = some e →
    ((w.run ms).site.confirmations.IsConfirmed (Projectable.ofEntry e).id ↔
      ∃ i confirmed outcome, .invoked i (.ofEntry e) confirmed outcome ∈ w.done ms ∧
        (Projectable.ofEntry e).id ∈ confirmed)
  /-- What is pending and what is confirmed are as many as the places that were routed. -/
  counted : {q : Nat | ∃ e, (w.run ms).site.journal.log[q]? = some e ∧
      RoutedIn (w.done ms) (.ofEntry e)}.encard
    = (((w.run ms).site.confirmations.pendingCount
      + (w.run ms).site.confirmations.confirmedCount : Nat) : ℕ∞)

/-- **Identities of entries do not collide**, in any run with a new bookkeeping in which
projections confirm only what they are handed and nobody hands out projectables of his own. -/
theorem tellsApart_run (hj : w.site.journal.Reachable) (hw : w.site.confirmations = .empty)
    (hms : ∀ m ∈ ms, ¬ m.HandsOut) (hown : ConfirmsOwn (w.done ms)) : w.TellsApart ms := by
  have hrecords : w.site.RecordsEntries := by
    intro id r hr
    rw [hw] at hr
    cases hr
  have hfiles := files_run hrecords hms
  have hindexed := hfiles.journal.indexed hj.indexed
  have hsound : (w.run ms).site.confirmations.Sound :=
    hfiles.sound (hw ▸ Confirmations.sound_empty)
  have hnodup : (w.run ms).site.confirmations.confirmed.Nodup := hfiles.nodup (hw ▸ .nil)
  -- nothing was tracked before, so what is tracked now is what was routed in this run
  have htracks : {id | (w.run ms).site.confirmations.Tracks id}
      = {id | ∃ e ∈ (w.run ms).site.journal.log,
          RoutedIn (w.done ms) (.ofEntry e) ∧ (Projectable.ofEntry e).id = id} := by
    ext id
    constructor
    · intro hid
      rcases hfiles.traced hown id hid with hbefore | ⟨p, hp, hpid⟩
      · rw [hw] at hbefore
        rcases hbefore with hbefore | hbefore <;> cases hbefore
      · obtain ⟨⟨e, he, rfl⟩, -⟩ := hfiles.routed p hp
        exact ⟨e, he, hp, hpid⟩
    · rintro ⟨e, -, hrouted, rfl⟩
      exact (hfiles.routed _ hrouted).2
  refine ⟨fun e he e' he' hid => hindexed.eq_of_id he he' hid, ?_, ?_⟩
  · intro q e he
    rw [hfiles.confirmed, hw]
    constructor
    · rintro (hid | ⟨i, p, confirmed, outcome, hmem, hid⟩)
      · cases hid
      · obtain ⟨e', he', rfl⟩ := hfiles.entries i p confirmed outcome hmem
        -- who confirmed the identity was handed an entry with it, and only `e` has it
        obtain rfl := hindexed.eq_of_id (List.mem_of_getElem? he) he'
          (hown _ hmem _ hid)
        exact ⟨i, confirmed, outcome, hmem, hid⟩
    · rintro ⟨i, confirmed, outcome, hmem, hid⟩
      exact Or.inr ⟨i, _, confirmed, outcome, hmem, hid⟩
  · rw [← hindexed.encard_ids, ← htracks, Confirmations.encard_tracks hsound hnodup]

/-- A projection that fails, says nothing or confirms. -/
def fickle : Watch Unit Script.State :=
  .start (fun _ => default)
    (fun _ => Script.projection
      { name := "fickle"
        actions := [.fail (.storage "busy"), .silent, .confirm, .silent, .silent] })
    fun _ _ => .retryAfter .zero

/-- Two streams get an entry of the same type and version each, and both entries are read again
after one of them was confirmed. -/
def rereading : List (Move Unit Script.State) :=
  [.register ⟨(), ["*"], "all", Route.star_ne_nil⟩,
    .operate (.append ⟨⟨"s"⟩, .any, [⟨"a", 1, .null⟩], .none, none⟩),
    .operate (.append ⟨⟨"t"⟩, .any, [⟨"a", 1, .null⟩], .none, none⟩),
    .tick .cycle 0, .tick .cycle 1, .seek 0, .runCycle]

/-- The first entry was handed out three times and the second one twice; one of them is pending
and the other one is confirmed. -/
theorem tellsApart_rereading :
    fickle.site.journal.Reachable ∧ fickle.site.confirmations = .empty ∧
      (∀ m ∈ rereading, ¬ m.HandsOut) ∧ ConfirmsOwn (fickle.done rereading) ∧
      fickle.TellsApart rereading ∧
      (fickle.run rereading).site.confirmations.pendingCount = 1 ∧
      (fickle.run rereading).site.confirmations.confirmed = [⟨"a", "t", 1⟩] := by
  have hj : fickle.site.journal.Reachable := ⟨fun _ => default, [], rfl⟩
  have hms : ∀ m ∈ rereading, ¬ m.HandsOut := by simp [rereading, Move.HandsOut]
  have hown : ConfirmsOwn (fickle.done rereading) := by decide
  exact ⟨hj, rfl, hms, hown, tellsApart_run hj rfl hms hown, by decide, by decide⟩

end Watch

end EventJournal
