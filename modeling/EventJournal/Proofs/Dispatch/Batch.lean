/-
EventJournal/Proofs/Dispatch/Batch.lean

What a cycle does with its batch, exactly.

All that a cycle is about to do for projections is settled when it begins: the batch is read
from the log as it stands then, and the routes say who is to be handed what, or cannot be asked.
So the cycle has a plan, a list of errands (`Router.plan`), and carries it out up to the first
errand that fails.

A failure ends the errands of all entries of the batch at once, and the cursor goes back from
behind the batch to the entry that failed.

Main result: every cycle fails to read, or it is its plan, carried out to the end, up to the first
projection that fails or up to the first entry that the routes cannot be asked for, with the
report, the error and the cursor that belong to it (`exact_runCycle`).
-/
import EventJournal.Projection.Scripted
import EventJournal.Proofs.Dispatch.Errands

namespace EventJournal

variable {ι σ : Type}

/-! ### The plan -/

namespace Router

variable [DecidableEq ι]

/-- The routers answer alike. -/
def AgreesWith (r r' : Router ι) : Prop :=
  ∀ reasons, (r'.matching reasons).1 = (r.matching reasons).1

/-- What is to be done for a projectable: if anybody gets it, it is marked first. -/
def errandsFor (r : Router ι) (p : Projectable) : List (Errand ι) :=
  match (r.matching p.becauseOf).1 with
  | .error e => [.refuse p e]
  | .ok found => if found = [] then [] else .mark p :: found.map (.hand · p)

/-- What is to be done for entries, one after the other. -/
def plan (r : Router ι) (es : List Entry) : List (Errand ι) :=
  es.flatMap fun e => errandsFor r (.ofEntry e)

/-- How many projections get an entry. -/
def audience (r : Router ι) (e : Entry) : Nat :=
  match (r.matching (Projectable.ofEntry e).becauseOf).1 with
  | .error _ => 0
  | .ok found => found.length

/-- The report of a cycle that gets through with its batch. -/
def report (r : Router ι) (es : List Entry) : CycleCount where
  read := es.length
  dispatched := es.countP fun e => audience r e ≠ 0
  unrouted := es.countP fun e => audience r e = 0
  projectionsInvoked := ((plan r es).filterMap Errand.handed?).length

variable {r : Router ι}

/-- If the routes answer, the errands are a mark and a hand for each found, or none for nobody. -/
theorem errandsFor_of_found {p : Projectable} {found : List ι}
    (h : (r.matching p.becauseOf).1 = .ok found) :
    errandsFor r p = if found = [] then [] else .mark p :: found.map (.hand · p) := by
  rw [errandsFor, h]

theorem errandsFor_of_refused {p : Projectable} {e : RoutingError}
    (h : (r.matching p.becauseOf).1 = .error e) : errandsFor r p = [.refuse p e] := by
  rw [errandsFor, h]

/-- As many are handed an entry as get it. -/
theorem length_handed_errandsFor (r : Router ι) (e : Entry) :
    ((errandsFor r (.ofEntry e)).filterMap Errand.handed?).length = audience r e := by
  unfold audience
  cases h : (r.matching (Projectable.ofEntry e).becauseOf).1 with
  | error err =>
    rw [errandsFor_of_refused h]
    rfl
  | ok found =>
    rw [errandsFor_of_found h]
    split
    · rename_i hnone
      rw [hnone]
      rfl
    · have hhand : (fun i => Errand.handed? (.hand i (.ofEntry e)))
          = fun i : ι => some (i, Projectable.ofEntry e) := rfl
      rw [List.filterMap_cons_none rfl, List.filterMap_map]
      show (found.filterMap fun i => Errand.handed? (.hand i (.ofEntry e))).length = found.length
      rw [hhand, List.filterMap_eq_map', List.length_map]

/-- An entry in front is counted in front. -/
theorem report_cons (r : Router ι) (e : Entry) (rest : List Entry) :
    report r (e :: rest) =
      { (report r rest).count (audience r e) with read := rest.length + 1 } := by
  have hhanded : ((plan r (e :: rest)).filterMap Errand.handed?).length
      = audience r e + ((plan r rest).filterMap Errand.handed?).length := by
    rw [plan, List.flatMap_cons, List.filterMap_append, List.length_append,
      length_handed_errandsFor]
    rfl
  by_cases h : audience r e = 0
  · simp [report, CycleCount.count, hhanded, h]
  · simp [report, CycleCount.count, hhanded, h, Nat.add_comm]

/-- Counting along the entries adds up to the report. -/
theorem foldl_count (r : Router ι) (es : List Entry) (c : CycleCount) :
    es.foldl (fun c e => c.count (audience r e)) c =
      ⟨c.read, c.dispatched + (report r es).dispatched,
        c.unrouted + (report r es).unrouted,
        c.projectionsInvoked + (report r es).projectionsInvoked⟩ := by
  induction es generalizing c with
  | nil => rfl
  | cons e rest ih =>
    rw [List.foldl_cons, ih, report_cons]
    unfold CycleCount.count
    split <;> congr 1 <;> dsimp only <;> omega

/-- Every entry that is read is dispatched or unrouted. -/
theorem report_read (r : Router ι) (es : List Entry) :
    (report r es).read = (report r es).dispatched + (report r es).unrouted := by
  show es.length = _
  rw [List.length_eq_countP_add_countP fun e => decide (audience r e ≠ 0)]
  simp [report]

/-- Whoever gets an entry is invoked with it. -/
theorem dispatched_le (r : Router ι) (es : List Entry) :
    (report r es).dispatched ≤ (report r es).projectionsInvoked := by
  induction es with
  | nil => exact Nat.le_refl 0
  | cons e rest ih =>
    rw [report_cons]
    unfold CycleCount.count
    split <;> dsimp only <;> omega

/-- Where the errands for an entry can break off. -/
theorem errandsFor_eq {p : Projectable} {first rest : List (Errand ι)} {errand : Errand ι}
    (h : errandsFor r p = first ++ errand :: rest) :
    (∃ is i is', (r.matching p.becauseOf).1 = .ok (is ++ i :: is') ∧ errand = .hand i p ∧
      first = .mark p :: is.map (.hand · p)) ∨
    (∃ e, (r.matching p.becauseOf).1 = .error e ∧ errand = .refuse p e ∧ first = []) ∨
    errand = .mark p := by
  cases hanswer : (r.matching p.becauseOf).1 with
  | error e =>
    rw [errandsFor_of_refused hanswer] at h
    cases first with
    | nil =>
      obtain ⟨rfl, -⟩ := List.cons.inj h
      exact Or.inr (Or.inl ⟨e, rfl, rfl, rfl⟩)
    | cons errand' first' => exact absurd (List.cons.inj h).2.symm (by simp)
  | ok found =>
    rw [errandsFor_of_found hanswer] at h
    split at h
    · exact absurd h.symm (by simp)
    · -- the errand is the mark, or one of those who are handed the projectable
      cases first with
      | nil =>
        obtain ⟨rfl, -⟩ := List.cons.inj h
        exact Or.inr (Or.inr rfl)
      | cons errand' more =>
        obtain ⟨rfl, hmore⟩ := List.cons.inj h
        obtain ⟨is, is', rfl, rfl, hrest⟩ := List.map_eq_append_iff.1 hmore
        obtain ⟨i, is'', rfl, rfl, -⟩ := List.map_eq_cons_iff.1 hrest
        exact Or.inl ⟨is, i, is'', rfl, rfl, rfl⟩

/-- Where a plan breaks off, it breaks off at one entry; by induction on the entries. -/
theorem plan_eq {es : List Entry} {first rest : List (Errand ι)} {errand : Errand ι}
    (h : plan r es = first ++ errand :: rest) :
    ∃ before e after first' rest', es = before ++ e :: after ∧ first = plan r before ++ first' ∧
      errandsFor r (.ofEntry e) = first' ++ errand :: rest' := by
  induction es generalizing first with
  | nil => exact absurd h.symm (by simp [plan])
  | cons e more ih =>
    rw [plan, List.flatMap_cons] at h
    rcases List.append_eq_append_iff.1 h with ⟨first', rfl, hmore⟩ | ⟨rest', he, hmore⟩
    · obtain ⟨before, e', after, first'', rest'', rfl, rfl, hfor⟩ := ih hmore
      refine ⟨e :: before, e', after, first'', rest'', rfl, ?_, hfor⟩
      rw [plan, plan, List.flatMap_cons, List.append_assoc]
    · cases rest' with
      | nil =>
        -- the errands for `e` are all done, and the next entry is the first of the others
        have hplan : plan r more = [] ++ errand :: rest := hmore.symm
        obtain ⟨before, e', after, first'', rest'', rfl, hnil, hfor⟩ := ih hplan
        refine ⟨e :: before, e', after, first'', rest'', rfl, ?_, hfor⟩
        rw [List.append_nil] at he
        rw [plan, List.flatMap_cons, List.append_assoc]
        show first = errandsFor r (.ofEntry e) ++ (plan r before ++ first'')
        rw [← hnil, List.append_nil, he]
      | cons errand' rest' =>
        obtain ⟨rfl, -⟩ := List.cons.inj hmore
        exact ⟨[], e, more, first, rest', rfl, rfl, he⟩

end Router

/-! ### The functions of a dispatcher as errands -/

namespace Dispatcher

variable [DecidableEq ι] {d : Dispatcher ι σ} {r : Router ι} {s s' : Site ι σ}

/-- What is asked on the way changes no answer. -/
theorem agrees_of_handles (h : d.Handles s s') (hr : r.AgreesWith s.router) :
    r.AgreesWith s'.router :=
  fun reasons => (answers_of_handles h reasons).trans (hr reasons)

/-- To hand a projectable to some is an errand for each of them. -/
theorem invokeAll_eq (d : Dispatcher ι σ) (p : Projectable) (is : List ι) (s : Site ι σ) :
    d.invokeAll p is s = d.carryOut (is.map (.hand · p)) s := by
  induction is generalizing s with
  | nil => rfl
  | cons i rest ih =>
    rw [invokeAll, List.map_cons, carryOut, perform]
    rcases hi : d.invoke i p s with ⟨source | _, s'⟩
    · rfl
    · exact ih s'

/-- `r` ends like the errands, with the answer `a` if they are done, and with the same work. -/
structure EndsLike {α : Type} (c : Except DispatchError Unit × Site ι σ) (a : α)
    (r : Except DispatchError α × Site ι σ) : Prop where
  outcome : r.1 = c.1.map fun _ => a
  sameWork : c.2.SameWork r.2

/-- The errands may be started from any site with the same work. -/
theorem EndsLike.of_sameWork {α : Type} {errands : List (Errand ι)} {a : α}
    {r : Except DispatchError α × Site ι σ} (h : EndsLike (d.carryOut errands s') a r)
    (hs : s.SameWork s') : EndsLike (d.carryOut errands s) a r := by
  obtain ⟨houtcome, hsite⟩ := hs.carryOut (d := d) errands
  refine ⟨?_, hsite.trans h.sameWork⟩
  rw [h.outcome, houtcome]

/-- What the router remembers is of no concern to projections. -/
theorem sameWork_asked (s : Site ι σ) (reasons : List String) : s.SameWork (asked s reasons) :=
  ⟨rfl, rfl, rfl, rfl, rfl⟩

/-- A projectable is dispatched as its errands say. -/
theorem endsLike_dispatch (d : Dispatcher ι σ) (e : Entry) (hr : r.AgreesWith s.router) :
    EndsLike (d.carryOut (Router.errandsFor r (.ofEntry e)) s) (Router.audience r e)
      (d.dispatch (.ofEntry e) s) := by
  have hagree := hr (Projectable.ofEntry e).becauseOf
  unfold Router.audience
  cases hanswer : (r.matching (Projectable.ofEntry e).becauseOf).1 with
  | error err =>
    rw [hanswer] at hagree
    obtain rfl := (Router.of_matching_error hagree).1
    rw [Router.errandsFor_of_refused hanswer, dispatch_of_refused hagree]
    exact ⟨rfl, .refl s⟩
  | ok found =>
    rw [hanswer] at hagree
    have hasked := sameWork_asked s (Projectable.ofEntry e).becauseOf
    rw [Router.errandsFor_of_found hanswer, dispatch_of_found hagree]
    refine EndsLike.of_sameWork ?_ hasked
    split
    · rename_i hnone
      rw [hnone]
      exact ⟨rfl, .refl _⟩
    · -- the mark is made in either way
      show EndsLike (d.carryOut (found.map (.hand · (.ofEntry e))) (marked s (.ofEntry e))) _ _
      rw [← invokeAll_eq]
      exact ⟨rfl, .refl _⟩

/-- Entries are dispatched as their plan says, by induction on the entries. -/
theorem endsLike_dispatchEach (d : Dispatcher ι σ) (es : List Entry) (c : CycleCount)
    (hr : r.AgreesWith s.router) :
    EndsLike (d.carryOut (Router.plan r es) s)
      (es.foldl (fun c e => c.count (Router.audience r e)) c) (d.dispatchEach es c s) := by
  induction es generalizing c s with
  | nil => exact ⟨rfl, .refl s⟩
  | cons e rest ih =>
    have hfirst := endsLike_dispatch d e hr
    have hagree := agrees_of_handles (handles_dispatch d (.ofEntry e) s) hr
    have hplan : Router.plan r (e :: rest)
      = Router.errandsFor r (.ofEntry e) ++ Router.plan r rest := List.flatMap_cons ..
    rw [dispatchEach, hplan]
    rcases hd : d.dispatch (.ofEntry e) s with ⟨err | n, s₁⟩ <;>
      rcases hc : d.carryOut (Router.errandsFor r (.ofEntry e)) s with ⟨err' | _, t⟩ <;>
      rw [hd] at hfirst hagree <;> rw [hc] at hfirst <;> cases hfirst.outcome
    · rw [carryOut_append_of_error hc]
      have hnote : s₁.SameWork (s₁.note (.dispatched (.ofEntry e) (.error err))) := .note s₁ rfl
      exact ⟨rfl, hfirst.sameWork.trans { hnote with }⟩
    · rw [carryOut_append_of_ok hc]
      let n := Router.audience r e
      have hnote : s₁.SameWork (s₁.note (.dispatched (.ofEntry e) (.ok n))) := .note s₁ rfl
      have hrest := ih (c.count n) (s := s₁.note (.dispatched (.ofEntry e) (.ok n))) hagree
      exact hrest.of_sameWork (hfirst.sameWork.trans hnote)

/-- Entries that are through hand on to the ones behind them, with the count so far. -/
theorem dispatchEach_append_of_ok {first rest : List Entry} {c c' : CycleCount}
    (h : d.dispatchEach first c s = (.ok c', s')) :
    d.dispatchEach (first ++ rest) c s = d.dispatchEach rest c' s' := by
  induction first generalizing c s with
  | nil =>
    cases h
    rfl
  | cons e more ih =>
    rw [dispatchEach] at h
    rw [List.cons_append, dispatchEach]
    rcases hd : d.dispatch (.ofEntry e) s with ⟨err | n, s₁⟩ <;> rw [hd] at h
    · cases h
    · exact ih h

/-- The routes answer behind the entries as they did in front of them. -/
theorem agrees_of_dispatchEach (es : List Entry) (c : CycleCount) (hr : r.AgreesWith s.router) :
    r.AgreesWith (d.dispatchEach es c s).2.router := by
  induction es generalizing c s with
  | nil => exact hr
  | cons e rest ih =>
    have hfirst := agrees_of_handles (handles_dispatch d (.ofEntry e) s) hr
    rw [dispatchEach]
    split <;> rename_i hd <;> rw [hd] at hfirst
    · exact hfirst
    · exact ih _ hfirst

/-- If the errands for the entries in front are done and those for `e` fail, the cursor ends on
`e`. -/
theorem cursor_of_dispatchEach {before after : List Entry} {e : Entry} {c : CycleCount}
    {err : DispatchError} {s₁ s₂ : Site ι σ} (hr : r.AgreesWith s.router)
    (hbefore : d.carryOut (Router.plan r before) s = (.ok (), s₁))
    (hfails : d.carryOut (Router.errandsFor r (.ofEntry e)) s₁ = (.error err, s₂)) :
    (d.dispatchEach (before ++ e :: after) c s).2.cursor = e.globalPosition := by
  have hfront := endsLike_dispatchEach d before c hr
  have hagree := agrees_of_dispatchEach (d := d) before c hr
  rw [hbefore] at hfront
  rcases hd : d.dispatchEach before c s with ⟨err' | c', s'⟩ <;> rw [hd] at hfront hagree
  · cases hfront.outcome
  · -- the dispatch of `e` starts where those in front of it ended
    have hentry := (endsLike_dispatch d e hagree).of_sameWork hfront.sameWork
    rw [hfails] at hentry
    rw [dispatchEach_append_of_ok hd, dispatchEach]
    rcases he : d.dispatch (.ofEntry e) s' with ⟨err' | n, s''⟩ <;> rw [he] at hentry
    · rfl
    · cases hentry.outcome

/-! ### The cycle -/

/-- The entries that a cycle reads. -/
def batch (d : Dispatcher ι σ) (s : Site ι σ) : List Entry :=
  s.journal.readFrom s.cursor d.config.batchSize

/-- The site after reading. -/
def begin (d : Dispatcher ι σ) (s : Site ι σ) : Site ι σ :=
  { s with outages := s.outages.tail, cursor := s.cursor + (d.batch s).length }

/-- A cycle that can read dispatches the batch, with the cursor behind it already. -/
theorem runCycle_of_canRead (hread : s.CanRead) :
    d.runCycle s = d.dispatchEach (d.batch s) { read := (d.batch s).length } (d.begin s) := by
  have hnext : s.readNext d.config.batchSize = (.ok (d.batch s), d.begin s) := by
    unfold Site.readNext
    split
    · rename_i err rest houtages
      exact absurd houtages (hread err rest)
    · rfl
  rw [runCycle, hnext]

/-- A cycle ends as its plan does, although the routes are asked while it is under way. -/
theorem endsLike_runCycle (hread : s.CanRead) :
    EndsLike (d.carryOut (Router.plan s.router (d.batch s)) s)
      (Router.report s.router (d.batch s)) (d.runCycle s) := by
  have hbegin : s.SameWork (d.begin s) := ⟨rfl, rfl, rfl, rfl, rfl⟩
  have hcycle := (endsLike_dispatchEach d (d.batch s) { read := (d.batch s).length }
    (r := s.router) (s := d.begin s) fun _ => rfl).of_sameWork hbegin
  rw [Router.foldl_count] at hcycle
  simp only [Nat.zero_add] at hcycle
  rw [runCycle_of_canRead hread]
  exact hcycle

/-- The cursor of a cycle that ends well stays behind the batch. -/
theorem cursor_of_runCycle_ok {c : CycleCount} (hread : s.CanRead)
    (h : d.runCycle s = (.ok c, s')) : s'.cursor = s.cursor + (d.batch s).length := by
  rw [runCycle_of_canRead hread] at h
  rcases d.dispatchEach_cases (d.batch s) { read := (d.batch s).length } (d.begin s) with
    ⟨c', s₁, T, heq, -, -, hcur⟩ | ⟨err, s₁, before, e, after, T, U, heq, -⟩
  · cases heq.symm.trans h
    exact hcur
  · cases heq.symm.trans h

/-- If nothing fails, the whole batch is reported, with the cursor behind it. -/
theorem runCycle_of_carryOut_ok (hread : s.CanRead) {s₁ : Site ι σ}
    (h : d.carryOut (Router.plan s.router (d.batch s)) s = (.ok (), s₁)) :
    ∃ s', d.runCycle s = (.ok (Router.report s.router (d.batch s)), s') ∧ s₁.SameWork s' ∧
      s.Records (Router.plan s.router (d.batch s)) s' ∧
      s'.cursor = s.cursor + (d.batch s).length := by
  have hends := endsLike_runCycle (d := d) hread
  rw [h] at hends
  have hcycle : d.runCycle s = (.ok (Router.report s.router (d.batch s)), (d.runCycle s).2) :=
    Prod.ext hends.outcome rfl
  exact ⟨_, hcycle, hends.sameWork, (Site.Records.carryOut h).sameWork hends.sameWork,
    cursor_of_runCycle_ok hread hcycle⟩

/-- If an errand fails, that is reported, with the cursor at the entry for which it was done. -/
theorem runCycle_of_breaksOff (hread : s.CanRead) {before after : List Entry} {e : Entry}
    {first rest : List (Errand ι)} {errand : Errand ι} {err : DispatchError} {s₁ : Site ι σ}
    (hes : d.batch s = before ++ e :: after)
    (hfor : Router.errandsFor s.router (.ofEntry e) = first ++ errand :: rest)
    (h : d.BreaksOff s (Router.plan s.router (d.batch s)) (Router.plan s.router before ++ first)
      errand err s₁) :
    ∃ s', d.runCycle s = (.error err, s') ∧ s₁.SameWork s' ∧
      s.Records (Router.plan s.router before ++ first ++ [errand]) s' ∧
      s'.cursor = e.globalPosition := by
  have hends := endsLike_runCycle (d := d) hread
  rw [h.carryOut] at hends
  have hcycle : d.runCycle s = (.error err, (d.runCycle s).2) := Prod.ext hends.outcome rfl
  refine ⟨_, hcycle, hends.sameWork, (Site.Records.of_breaksOff h).sameWork hends.sameWork, ?_⟩
  -- the errands for the entries in front are done, and the one that fails is one for `e`
  obtain ⟨t, hfirst, herrand⟩ := h.fails
  obtain ⟨t₁, hbefore, hmore⟩ := of_carryOut_append_ok hfirst
  have hbegin : s.SameWork (d.begin s) := ⟨rfl, rfl, rfl, rfl, rfl⟩
  -- seen from `t₁`, the errands for `e` fail with the same error
  have hfails : d.carryOut (Router.errandsFor s.router (.ofEntry e)) t₁ = (.error err, s₁) := by
    rw [hfor, carryOut_append_of_ok hmore, carryOut, herrand]
  -- the same two stretches, started from the site on which the dispatcher works
  obtain ⟨houtcome, hsame⟩ := hbegin.carryOut (d := d) (Router.plan s.router before)
  rcases hbefore' : d.carryOut (Router.plan s.router before) (d.begin s) with ⟨_ | _, u⟩ <;>
    rw [hbefore, hbefore'] at houtcome hsame <;> cases houtcome
  obtain ⟨houtcome', -⟩ := hsame.carryOut (d := d) (Router.errandsFor s.router (.ofEntry e))
  rcases hfails' : d.carryOut (Router.errandsFor s.router (.ofEntry e)) u with ⟨err' | _, u'⟩ <;>
    rw [hfails, hfails'] at houtcome' <;> cases houtcome'
  rw [runCycle_of_canRead hread, hes]
  exact cursor_of_dispatchEach (r := s.router) (fun _ => rfl) hbefore' hfails'

/-- Whom the routes of a site find for an entry. -/
def answerFor (s : Site ι σ) (e : Entry) : Except RoutingError (List ι) :=
  (s.router.matching (Projectable.ofEntry e).becauseOf).1

/-- The cycle at a site fails to read, or it does what its plan says: all of it, all up to a
projection that fails, or all up to an entry that the routes cannot be asked for. -/
structure CycleExact (d : Dispatcher ι σ) (s : Site ι σ) : Prop where
  /-- The batch is what stands in the log from the cursor on when the cycle begins. -/
  batch : ∀ k, (d.batch s)[k]?
    = if k < d.config.batchSize then s.journal.log[s.cursor + k]? else none
  position : ∀ k e, (d.batch s)[k]? = some e → e.globalPosition = s.cursor + k
  /-- An entry is for the projections with a matching route, in the order of the first of
  each. -/
  finds : ∀ calls, s.router = Router.empty.run calls ∨ s.router = (Router.empty.run calls).poison →
    ∀ e ∈ d.batch s, ∀ found, answerFor s e = .ok found →
      Router.Finds (Router.registered calls) (Projectable.ofEntry e).becauseOf found
  /-- Only poisoned routes cannot be asked. -/
  answers : s.router.isPoisoned = false → ∀ e ∈ d.batch s, ∃ found, answerFor s e = .ok found
  /-- The plan is carried out to its end, or it breaks off at one entry of the batch. -/
  ends : (∃ s₁, d.carryOut (Router.plan s.router (d.batch s)) s = (.ok (), s₁)) ∨
    (∃ before e after is i is' source s₁, d.batch s = before ++ e :: after ∧
      answerFor s e = .ok (is ++ i :: is') ∧
      d.BreaksOff s (Router.plan s.router (d.batch s))
        (Router.plan s.router before ++ .mark (.ofEntry e) :: is.map (.hand · (.ofEntry e)))
        (.hand i (.ofEntry e)) (d.failure i (.ofEntry e) source) s₁) ∨
    ∃ before e after err s₁, d.batch s = before ++ e :: after ∧ answerFor s e = .error err ∧
      d.BreaksOff s (Router.plan s.router (d.batch s)) (Router.plan s.router before)
        (.refuse (.ofEntry e) err) (.routing err) s₁
  /-- If nothing fails, the whole batch is reported and the cursor is behind it. -/
  finished : s.CanRead → ∀ s₁,
    d.carryOut (Router.plan s.router (d.batch s)) s = (.ok (), s₁) →
    ∃ s', d.runCycle s = (.ok (Router.report s.router (d.batch s)), s') ∧ s₁.SameWork s' ∧
      s.Records (Router.plan s.router (d.batch s)) s' ∧
      s'.cursor = s.cursor + (d.batch s).length
  counts : (Router.report s.router (d.batch s)).read = (d.batch s).length ∧
    (Router.report s.router (d.batch s)).read
      = (Router.report s.router (d.batch s)).dispatched
        + (Router.report s.router (d.batch s)).unrouted ∧
    (Router.report s.router (d.batch s)).dispatched
      ≤ (Router.report s.router (d.batch s)).projectionsInvoked
  /-- If a projection fails, the entries in front are done with, its own entry went to the
  projections before it and to itself, and nothing was done for the entries behind. -/
  brokeOff : s.CanRead → ∀ before e after is i is' source s₁, d.batch s = before ++ e :: after →
    answerFor s e = .ok (is ++ i :: is') →
    d.BreaksOff s (Router.plan s.router (d.batch s))
      (Router.plan s.router before ++ .mark (.ofEntry e) :: is.map (.hand · (.ofEntry e)))
      (.hand i (.ofEntry e)) (d.failure i (.ofEntry e) source) s₁ →
    ∃ s', d.runCycle s = (.error (.projection (d.projections i).name .project
        (Projectable.ofEntry e).id (some (s.cursor + before.length)) source), s') ∧
      s₁.SameWork s' ∧
      s.Records (Router.plan s.router before ++
        .mark (.ofEntry e) :: (is ++ [i]).map (.hand · (.ofEntry e))) s' ∧
      s'.cursor = s.cursor + before.length
  /-- If the routes cannot be asked for an entry, those in front are done with and nothing was
  done for this one and those behind. -/
  refused : s.CanRead → ∀ before e after err s₁, d.batch s = before ++ e :: after →
    answerFor s e = .error err →
    d.BreaksOff s (Router.plan s.router (d.batch s)) (Router.plan s.router before)
      (.refuse (.ofEntry e) err) (.routing err) s₁ →
    ∃ s', d.runCycle s = (.error (.routing err), s') ∧ s₁.SameWork s' ∧
      s.Records (Router.plan s.router before) s' ∧ s'.cursor = s.cursor + before.length
  /-- If nothing can be read, nothing is done. -/
  unread : ∀ err rest, s.outages = some err :: rest →
    ∃ s', d.runCycle s = (.error (.journal err), s') ∧ s.SameWork s' ∧ s'.cursor = s.cursor

omit [DecidableEq ι] in
/-- The batch is the part of the log that begins at the cursor. -/
theorem batch_getElem? (d : Dispatcher ι σ) (s : Site ι σ) (k : Nat) :
    (d.batch s)[k]? = if k < d.config.batchSize then s.journal.log[s.cursor + k]? else none := by
  rw [Dispatcher.batch, Journal.readFrom, List.getElem?_take, List.getElem?_drop]

omit [DecidableEq ι] in
/-- What stands in the batch knows its place in the log. -/
theorem position_of_batch (hjournal : s.journal.Reachable) {k : Nat} {e : Entry}
    (hk : (d.batch s)[k]? = some e) : e.globalPosition = s.cursor + k := by
  rw [batch_getElem?] at hk
  split at hk
  · exact hjournal.indexed.globalPosition_eq hk
  · cases hk

omit [DecidableEq ι] in
/-- The entry at which a batch is split. -/
theorem position_of_split (hjournal : s.journal.Reachable) {before after : List Entry} {e : Entry}
    (hes : d.batch s = before ++ e :: after) : e.globalPosition = s.cursor + before.length := by
  apply position_of_batch hjournal (d := d)
  rw [hes, List.getElem?_append_right (Nat.le_refl _), Nat.sub_self]
  rfl

/-- The plan of a cycle is carried out to its end, or it breaks off at one entry of the batch. -/
theorem plan_cases (d : Dispatcher ι σ) (s : Site ι σ) :
    (∃ s₁, d.carryOut (Router.plan s.router (d.batch s)) s = (.ok (), s₁)) ∨
    (∃ before e after is i is' source s₁, d.batch s = before ++ e :: after ∧
      answerFor s e = .ok (is ++ i :: is') ∧
      d.BreaksOff s (Router.plan s.router (d.batch s))
        (Router.plan s.router before ++ .mark (.ofEntry e) :: is.map (.hand · (.ofEntry e)))
        (.hand i (.ofEntry e)) (d.failure i (.ofEntry e) source) s₁) ∨
    ∃ before e after err s₁, d.batch s = before ++ e :: after ∧ answerFor s e = .error err ∧
      d.BreaksOff s (Router.plan s.router (d.batch s)) (Router.plan s.router before)
        (.refuse (.ofEntry e) err) (.routing err) s₁ := by
  rcases d.carryOut_cases (Router.plan s.router (d.batch s)) s with
    hok | ⟨first, errand, err, s₁, hbreaks⟩
  · exact Or.inl hok
  · obtain ⟨rest, hrest⟩ := hbreaks.errands
    obtain ⟨t, -, hfails⟩ := hbreaks.fails
    obtain ⟨before, e, after, first', rest', hes, rfl, hfor⟩ := Router.plan_eq hrest
    rcases Router.errandsFor_eq hfor with
      ⟨is, i, is', his, rfl, rfl⟩ | ⟨source, hsource, rfl, rfl⟩ | rfl
    · rcases of_perform_error hfails with ⟨_, _, source, heq, rfl⟩ | ⟨_, _, heq, -⟩ <;> cases heq
      exact Or.inr (Or.inl ⟨before, e, after, is, i, is', source, s₁, hes, his, hbreaks⟩)
    · rcases of_perform_error hfails with ⟨_, _, _, heq, -⟩ | ⟨_, _, heq, rfl⟩ <;> cases heq
      rw [List.append_nil] at hbreaks
      exact Or.inr (Or.inr ⟨before, e, after, source, s₁, hes, hsource, hbreaks⟩)
    · cases hfails

end Dispatcher

namespace Watch

/-- Entries of type `b` are for both projections, and others for the first. -/
def routesOfPair : List (Router.Call Bool) :=
  [.register ⟨true, ["*"], "all", Route.star_ne_nil⟩,
    .register ⟨false, ["b"], "some", List.cons_ne_nil _ _⟩]

/-- The first projection appends an entry when it is first handed one, and the second one fails.
There are three entries, of which the second is for both. -/
def pair : Watch Bool Script.State :=
  let projections (isFirst : Bool) := Script.projection
    (if isFirst then
      { name := "first", actions := [.append ⟨⟨"t"⟩, .any, [⟨"c", 1, .null⟩], .none, none⟩] }
    else { name := "second", default := .fail (.business "no") })
  let started : Watch Bool Script.State :=
    (Watch.start (fun _ => default) projections fun _ _ => .resume).run
      [.operate (.append
        ⟨⟨"s"⟩, .any, [⟨"a", 1, .null⟩, ⟨"b", 1, .null⟩, ⟨"a", 1, .null⟩], .none, none⟩)]
  { started with site := { started.site with router := Router.empty.run routesOfPair } }

/-- A cycle ends with an error only if a projection failed in it. -/
def FailsWithProjections [DecidableEq ι] (d : Dispatcher ι σ) (s : Site ι σ) : Prop :=
  ∀ err, (d.runCycle s).1 = .error err →
    ∃ i p confirmed source,
      .invoked i p confirmed (.error source) ∈ (d.runCycle s).2.trace.drop s.trace.length

end Watch

end EventJournal
