/-
EventJournal/Proofs/Confirmations/Overdue.lean

What is reported as overdue.

A report lists the records that are pending for longer than a threshold, by the time at which
they were handed out last and then by identity (`Outstanding.rank`).  No two records have the
same rank, because no two have the same identity.  So a report is known by its members alone
(`Sound.overdueRecords_eq`): neither the order in which identities came to the
bookkeeping nor the order of its table shows.

Main result: after any calls and whatever the clock shows, the report is what the calls say
(`reportsOverdue_after`).
-/
import EventJournal.Proofs.Confirmations.Tracking
import Mathlib.Data.List.Lex
import Mathlib.Data.Prod.Lex

namespace EventJournal

/-! ### Ranks -/

/-- The code points of a text, by which texts are compared. -/
def codePoints (s : String) : List Nat := s.toList.map Char.toNat

/-- Texts of the same code points are the same. -/
theorem codePoints_inj {s t : String} : codePoints s = codePoints t ↔ s = t := by
  refine ⟨fun h => ?_, congrArg codePoints⟩
  exact String.toList_inj.1 (List.map_injective_iff.2 (fun _ _ => Char.toNat_inj.1) h)

/-- Characters are compared by their code points, and so are lists of them. -/
theorem map_toNat_lt_iff {l l' : List Char} :
    l.map Char.toNat < l'.map Char.toNat ↔ l < l' := by
  induction l generalizing l' with
  | nil => cases l' <;> simp
  | cons c l ih =>
    cases l' with
    | nil => simp
    | cons c' l' =>
      rw [List.map_cons, List.map_cons, List.cons_lt_cons_iff, List.cons_lt_cons_iff, ih,
        Char.toNat_inj]
      exact Iff.rfl

/-- The order of texts is the order of their code points. -/
theorem compare_eq_lt_iff_codePoints {s t : String} :
    Ord.compare s t = .lt ↔ codePoints s < codePoints t := by
  have hlt : s < t ↔ s.toList < t.toList := Iff.rfl
  exact compareOfLessAndEq_eq_lt.trans (hlt.trans map_toNat_lt_iff.symm)

theorem compare_eq_eq_iff_codePoints {s t : String} :
    Ord.compare s t = .eq ↔ codePoints s = codePoints t :=
  Std.LawfulEqOrd.compare_eq_iff_eq.trans codePoints_inj.symm

namespace ProjectableId

/-- The type counts first, then the data, then the version. -/
def rank (id : ProjectableId) : List Nat ×ₗ List Nat ×ₗ Nat :=
  toLex (codePoints id.projectableType, toLex (codePoints id.dataId, id.dataVersion))

/-- The rank of an identity tells all of it. -/
theorem rank_inj {a b : ProjectableId} : a.rank = b.rank ↔ a = b := by
  refine ⟨fun h => ?_, congrArg rank⟩
  obtain ⟨htype, hrest⟩ := Prod.mk.inj (toLex.injective h)
  obtain ⟨hdata, hversion⟩ := Prod.mk.inj (toLex.injective hrest)
  cases a
  cases b
  exact (mk.injEq ..).mpr ⟨codePoints_inj.1 htype, codePoints_inj.1 hdata, hversion⟩

/-- Identities are compared by rank. -/
theorem isLE_compare_iff {a b : ProjectableId} :
    (Ord.compare a b).isLE ↔ a.rank ≤ b.rank := by
  have hcompare : Ord.compare a b = (Ord.compare a.projectableType b.projectableType).then
      ((Ord.compare a.dataId b.dataId).then (Ord.compare a.dataVersion b.dataVersion)) := rfl
  rw [hcompare, rank, rank, Prod.Lex.toLex_le_toLex, Prod.Lex.toLex_le_toLex,
    ← compare_eq_lt_iff_codePoints, ← compare_eq_eq_iff_codePoints,
    ← compare_eq_lt_iff_codePoints, ← compare_eq_eq_iff_codePoints, ← Nat.isLE_compare]
  simp only [Ordering.isLE_then_iff_or]

end ProjectableId

namespace Outstanding

/-- The time of the last hand-out counts first, then the identity. -/
def rank (r : Outstanding) : Int ×ₗ List Nat ×ₗ List Nat ×ₗ Nat :=
  toLex (r.since, r.projectable.id.rank)

/-- A record has its projectable from the first time and its moment from the last. -/
theorem ofHandOuts?_eq_some {hs : List (Int × Projectable)} {first last : Int × Projectable}
    (hfirst : hs.head? = some first) (hlast : hs.getLast? = some last) :
    ofHandOuts? hs = some ⟨first.2, last.1, .ofNat hs.length⟩ := by
  rw [ofHandOuts?, hfirst, hlast]

/-- Records are sorted by rank. -/
theorem atMost_iff {a b : Outstanding} : a.atMost b ↔ a.rank ≤ b.rank := by
  rw [rank, rank, Prod.Lex.toLex_le_toLex, ← ProjectableId.isLE_compare_iff, atMost]
  split
  · rename_i hsince
    simp [hsince]
  · rename_i hsince
    simp [hsince]

end Outstanding

namespace Confirmations

/-! ### Reports -/

variable {c c' : Confirmations} {now : Int} {threshold threshold' : Duration}

/-- What stands in the table is found under its own identity. -/
theorem Sound.mem_values_iff (h : c.Sound) {r : Outstanding} :
    r ∈ c.pending.values ↔ c.pending.get? r.projectable.id = some r := by
  constructor
  · intro hr
    obtain ⟨⟨id, _⟩, hrow, rfl⟩ := List.mem_map.1 hr
    have hget := Table.get?_eq_some_iff.2 hrow
    rw [h.keyed id _ hget]
    exact hget
  · intro hget
    exact List.mem_map.2 ⟨_, Table.get?_eq_some_iff.1 hget, rfl⟩

/-- Reported are the records under their identities that are overdue. -/
theorem Sound.mem_overdueRecords_iff (h : c.Sound) {r : Outstanding} :
    r ∈ c.overdueRecords now threshold ↔
      c.pending.get? r.projectable.id = some r ∧ r.IsOverdue now threshold := by
  rw [mem_overdueRecords, h.mem_values_iff]

/-- No identity stands in the table twice. -/
theorem Sound.nodup_ids (h : c.Sound) :
    (c.pending.values.map fun r => r.projectable.id).Nodup := by
  -- a record stands under its own identity, so the identities are the keys
  have hkeys : c.pending.values.map (fun r => r.projectable.id) = c.pending.keys := by
    unfold Table.values Table.keys
    rw [List.map_map]
    refine List.map_congr_left fun row hrow => ?_
    exact h.keyed row.1 row.2 (Table.get?_eq_some_iff.2 hrow)
  rw [hkeys]
  exact c.pending.nodup

/-- Nor in a report, which is a part of the table in another order. -/
theorem Sound.nodup_ids_overdueRecords (h : c.Sound) (now : Int) (threshold : Duration) :
    ((c.overdueRecords now threshold).map fun r => r.projectable.id).Nodup := by
  have hsub : (c.pending.values.filter fun r => r.IsOverdue now threshold).Sublist
      c.pending.values := List.filter_sublist
  have hperm := List.mergeSort_perm (c.pending.values.filter fun r => r.IsOverdue now threshold)
    Outstanding.atMost
  exact ((hperm.map _).nodup_iff).2 (h.nodup_ids.sublist (hsub.map _))

/-- Records come in the order of their ranks, and no two ranks are equal. -/
theorem Sound.pairwise_rank (h : c.Sound) (now : Int) (threshold : Duration) :
    (c.overdueRecords now threshold).Pairwise fun r r' => r.rank < r'.rank := by
  have hle : (c.overdueRecords now threshold).Pairwise fun r r' => r.atMost r' := by
    apply List.pairwise_mergeSort
    · intro a b d hab hbd
      rw [Outstanding.atMost_iff] at hab hbd ⊢
      exact hab.trans hbd
    · intro a b
      rw [Bool.or_eq_true, Outstanding.atMost_iff, Outstanding.atMost_iff]
      exact le_total ..
  have hids := List.pairwise_map.1 (h.nodup_ids_overdueRecords now threshold)
  refine (hle.and hids).imp fun {r r'} hboth => ?_
  refine lt_of_le_of_ne (Outstanding.atMost_iff.1 hboth.1) fun heq => hboth.2 ?_
  -- equal ranks have equal identities in them
  exact ProjectableId.rank_inj.1 (Prod.mk.inj (toLex.injective heq)).2

/-- A report is the only list of its members in the order of their ranks. -/
theorem Sound.overdueRecords_eq (h : c.Sound) {rs : List Outstanding}
    (hrs : rs.Pairwise fun r r' => r.rank < r'.rank)
    (hmem : ∀ r, r ∈ rs ↔ c.pending.get? r.projectable.id = some r ∧ r.IsOverdue now threshold) :
    c.overdueRecords now threshold = rs := by
  have hsorted := h.pairwise_rank now threshold
  have hne {r r' : Outstanding} (hlt : r.rank < r'.rank) : r ≠ r' := by
    rintro rfl
    exact lt_irrefl _ hlt
  have hperm : (c.overdueRecords now threshold).Perm rs := by
    refine (List.perm_ext_iff_of_nodup (hsorted.imp hne) (hrs.imp hne)).2 fun r => ?_
    rw [h.mem_overdueRecords_iff, hmem]
  exact hperm.eq_of_pairwise (fun r r' _ _ hlt hgt => absurd hgt hlt.asymm) hsorted hrs

/-- The order of the table does not show. -/
theorem Sound.overdue_congr (h : c.Sound) (h' : c'.Sound)
    (hget : ∀ id, c'.pending.get? id = c.pending.get? id) :
    c'.overdue now threshold = c.overdue now threshold := by
  unfold overdue
  rw [h'.overdueRecords_eq (h.pairwise_rank now threshold)]
  intro r
  rw [h.mem_overdueRecords_iff, hget]

/-- A larger threshold leaves some out. -/
theorem Sound.overdue_sublist (h : c.Sound) (now : Int) (hle : threshold ≤ threshold') :
    (c.overdue now threshold').Sublist (c.overdue now threshold) := by
  have hnarrow {r : Outstanding} (hr : r.IsOverdue now threshold') : r.IsOverdue now threshold :=
    lt_of_le_of_lt (Int.ofNat_le.2 (Duration.le_def.1 hle)) hr
  have hfilter : c.overdueRecords now threshold'
      = (c.overdueRecords now threshold).filter fun r => r.IsOverdue now threshold' := by
    apply h.overdueRecords_eq
    · exact (h.pairwise_rank now threshold).sublist List.filter_sublist
    · intro r
      rw [List.mem_filter, h.mem_overdueRecords_iff, decide_eq_true_iff, and_assoc]
      exact and_congr_right fun _ => and_iff_right_of_imp hnarrow
  unfold overdue
  rw [hfilter]
  exact List.filter_sublist.map _

/-- A table that is in order is reported as it stands. -/
theorem overdueRecords_of_pairwise
    (h : (c.pending.values.filter fun r => r.IsOverdue now threshold).Pairwise
      fun r r' => r.atMost r') :
    c.overdueRecords now threshold = c.pending.values.filter fun r => r.IsOverdue now threshold :=
  List.mergeSort_of_pairwise h

/-! ### Calls -/

variable {calls calls' : List Call} {id : ProjectableId}

theorem Sound.make (h : c.Sound) (call : Call) : (call.make c).Sound := by
  cases call with
  | markPending now p => exact h.markPending now p
  | confirm p => exact h.confirm p
  | overdue now threshold => exact h

/-- Whatever is called, records stand under their own identities. -/
theorem sound_after (calls : List Call) : (after calls).Sound := by
  induction calls using List.reverseRecOn with
  | nil => exact sound_empty
  | append_singleton calls call ih =>
    rw [after_concat]
    exact ih.make call

/-- When the identity was handed out last. -/
def lastHandOut? (id : ProjectableId) (calls : List Call) : Option Int :=
  (handOuts id calls).getLast?.map Prod.fst

/-- The calls that are about the identity. -/
def callsAbout (id : ProjectableId) (calls : List Call) : List Call :=
  calls.filter fun call => call.subject? = some id

/-- Calls about others hand out nothing of this identity. -/
theorem handOuts_callsAbout (id : ProjectableId) (calls : List Call) :
    handOuts id (callsAbout id calls) = handOuts id calls := by
  unfold handOuts callsAbout
  rw [List.filterMap_filter]
  refine List.filterMap_congr fun call _ => ?_
  cases call with
  | markPending now p =>
    by_cases hid : p.id = id <;> simp [Call.subject?, Call.handOut?, hid]
  | _ => simp [Call.handOut?]

/-- They do not confirm it either. -/
theorem confirms_callsAbout_iff (id : ProjectableId) (calls : List Call) :
    (∃ call ∈ callsAbout id calls, call.Confirms id) ↔ ∃ call ∈ calls, call.Confirms id := by
  have hsubject {call : Call} (h : call.Confirms id) : call.subject? = some id := by
    cases call with
    | confirm p => exact congrArg some h
    | _ => cases h
  constructor
  · rintro ⟨call, hmem, hconfirms⟩
    exact ⟨call, (List.mem_filter.1 hmem).1, hconfirms⟩
  · rintro ⟨call, hmem, hconfirms⟩
    exact ⟨call, List.mem_filter.2 ⟨hmem, decide_eq_true (hsubject hconfirms)⟩, hconfirms⟩

/-- A record depends on nothing but the calls about its identity. -/
theorem get?_after_congr (h : callsAbout id calls' = callsAbout id calls) :
    (after calls').pending.get? id = (after calls).pending.get? id := by
  have hconfirmed : (after calls').IsConfirmed id ↔ (after calls).IsConfirmed id := by
    rw [(tells_after calls').confirmed, (tells_after calls).confirmed,
      ← confirms_callsAbout_iff id calls', h, confirms_callsAbout_iff]
  rw [(tells_after calls').pending, (tells_after calls).pending, ← handOuts_callsAbout id calls', h,
    handOuts_callsAbout]
  exact if_congr hconfirmed rfl rfl

/-- A record is what the calls that handed its identity out add up to, unless some call
confirmed it. -/
theorem get?_after_eq_some_iff {r : Outstanding} :
    (after calls).pending.get? id = some r ↔ (∀ call ∈ calls, ¬ call.Confirms id) ∧
      Outstanding.ofHandOuts? (handOuts id calls) = some r := by
  have hconfirmed := (tells_after calls).confirmed id
  rw [(tells_after calls).pending]
  split
  · rename_i hid
    obtain ⟨call, hmem, hconfirms⟩ := hconfirmed.1 hid
    refine iff_of_false nofun fun h => ?_
    exact h.1 call hmem hconfirms
  · rename_i hid
    refine (and_iff_right fun call hmem hconfirms => ?_).symm
    exact hid (hconfirmed.2 ⟨call, hmem, hconfirms⟩)

/-- What is on record of an overdue projectable. -/
theorem mem_overdueRecords_after_iff {r : Outstanding} :
    r ∈ (after calls).overdueRecords now threshold ↔
      (∀ call ∈ calls, ¬ call.Confirms r.projectable.id) ∧
      Outstanding.ofHandOuts? (handOuts r.projectable.id calls) = some r ∧
      r.IsOverdue now threshold := by
  rw [(sound_after calls).mem_overdueRecords_iff, get?_after_eq_some_iff, and_assoc]

/-- With these calls, the report at this time is exactly what it should be. -/
structure ReportsOverdue (calls : List Call) (now : Int) (threshold : Duration) : Prop where
  /-- Reported is what was never confirmed and was handed out last longer than the threshold ago,
  in the form in which it was handed out first. -/
  mem : ∀ p, p ∈ (after calls).overdue now threshold ↔
    (∀ call ∈ calls, ¬ call.Confirms p.id) ∧
      (handOuts p.id calls).head?.map Prod.snd = some p ∧
      ∃ since, lastHandOut? p.id calls = some since ∧ (threshold.nanos : Int) < now - since
  once : (((after calls).overdue now threshold).map Projectable.id).Nodup
  /-- What was handed out last comes last; for equal times the identities decide. -/
  order : ((after calls).overdue now threshold).Pairwise fun p q => ∃ since since',
    lastHandOut? p.id calls = some since ∧ lastHandOut? q.id calls = some since' ∧
      toLex (since, p.id.rank) < toLex (since', q.id.rank)
  /-- What was handed out at a time that the clock has not reached is not reported. -/
  past : ∀ p ∈ (after calls).overdue now threshold, ∀ since,
    lastHandOut? p.id calls = some since → since ≤ now
  /-- It does not matter in which order calls about different identities came. -/
  independent : ∀ calls', (∀ id, callsAbout id calls' = callsAbout id calls) →
    (after calls').overdue now threshold = (after calls).overdue now threshold
  narrower : ∀ threshold', threshold ≤ threshold' →
    ((after calls).overdue now threshold').Sublist ((after calls).overdue now threshold)

/-- **Reported is exactly what is overdue**, once each and in one order, after any calls and
whatever the clock shows. -/
theorem reportsOverdue_after (calls : List Call) (now : Int) (threshold : Duration) :
    ReportsOverdue calls now threshold := by
  have hsound := sound_after calls
  have hlast {r : Outstanding} (hr : r ∈ (after calls).overdueRecords now threshold) :
      lastHandOut? r.projectable.id calls = some r.since :=
    (Outstanding.eq_of_ofHandOuts? (mem_overdueRecords_after_iff.1 hr).2.1).2.1
  have hmem (p : Projectable) : p ∈ (after calls).overdue now threshold ↔
      (∀ call ∈ calls, ¬ call.Confirms p.id) ∧
        (handOuts p.id calls).head?.map Prod.snd = some p ∧
        ∃ since, lastHandOut? p.id calls = some since ∧ (threshold.nanos : Int) < now - since := by
    constructor
    · intro hp
      obtain ⟨r, hr, rfl⟩ := List.mem_map.1 hp
      obtain ⟨hnever, hout, hoverdue⟩ := mem_overdueRecords_after_iff.1 hr
      exact ⟨hnever, (Outstanding.eq_of_ofHandOuts? hout).1, r.since, hlast hr, hoverdue⟩
    · rintro ⟨hnever, hfirst, since, hsince, hoverdue⟩
      obtain ⟨first, hhead, rfl⟩ := Option.map_eq_some_iff.1 hfirst
      obtain ⟨last, hget, rfl⟩ := Option.map_eq_some_iff.1 hsince
      have hout := Outstanding.ofHandOuts?_eq_some hhead hget
      -- the hand-outs add up to this record, and it is overdue
      have hr : (⟨first.2, last.1, .ofNat (handOuts first.2.id calls).length⟩ : Outstanding)
          ∈ (after calls).overdueRecords now threshold :=
        mem_overdueRecords_after_iff.2 ⟨hnever, hout, hoverdue⟩
      exact List.mem_map.2 ⟨_, hr, rfl⟩
  refine ⟨hmem, ?_, ?_, ?_, ?_, ?_⟩
  · unfold overdue
    rw [List.map_map]
    exact hsound.nodup_ids_overdueRecords now threshold
  · refine List.pairwise_map.2 ((hsound.pairwise_rank now threshold).imp_of_mem ?_)
    intro r r' hr hr' hrank
    exact ⟨r.since, r'.since, hlast hr, hlast hr', hrank⟩
  · intro p hp since hsince
    obtain ⟨-, -, since', hsince', hoverdue⟩ := (hmem p).1 hp
    obtain rfl : since = since' := Option.some.inj (hsince.symm.trans hsince')
    omega
  · intro calls' habout
    exact hsound.overdue_congr (sound_after calls') fun id => get?_after_congr (habout id)
  · exact fun threshold' hle => hsound.overdue_sublist now hle

end Confirmations

end EventJournal
