/-
EventJournal/Proofs/Dispatch/Restart.lean

Which projection is reset when a supervisor says to restart.

A failure is reported with the name of the projection that failed, and a worker that is told to
restart asks the routes for that name.  The first projection of the name answers, so it is reset
once, and no other one is.  Routes tell projections apart by more than their names, though: if
another projection of the name was registered before the one that failed, that other one loses
its state (`not_restartsFailed_namesakes`).

Main result: a restart resets the first projection on the routes that has the name of the one
that failed, which is the failed one itself if no other on the routes is called like it
(`restarts_tick`).
-/
import EventJournal.Projection.Scripted
import EventJournal.Proofs.Dispatch.Watch

namespace EventJournal

variable {ι σ : Type}

/-! ### Failures, directives and resets -/

namespace Occurrence

/-- The projection that failed, if it was an invocation that did. -/
def failed? : Occurrence ι → Option ι
  | .invoked i _ _ (.error _) => some i
  | _ => none

/-- What a supervisor said. -/
def directive? : Occurrence ι → Option Directive
  | .decided _ _ _ _ directive => some directive
  | _ => none

/-- The projection that was reset, whether or not that succeeded. -/
def reset? : Occurrence ι → Option ι
  | .wasReset i _ => some i
  | _ => none

end Occurrence

/-- The projections that failed, in order. -/
def failedIn (T : List (Occurrence ι)) : List ι := T.filterMap Occurrence.failed?

def directivesIn (T : List (Occurrence ι)) : List Directive := T.filterMap Occurrence.directive?

def resetsIn (T : List (Occurrence ι)) : List ι := T.filterMap Occurrence.reset?

theorem failedIn_append (T U : List (Occurrence ι)) :
    failedIn (T ++ U) = failedIn T ++ failedIn U := List.filterMap_append

theorem directivesIn_append (T U : List (Occurrence ι)) :
    directivesIn (T ++ U) = directivesIn T ++ directivesIn U := List.filterMap_append

theorem resetsIn_append (T U : List (Occurrence ι)) :
    resetsIn (T ++ U) = resetsIn T ++ resetsIn U := List.filterMap_append

/-- The name that is reported with a failure. -/
def blame {α : Type} : Except DispatchError α → Option String
  | .ok _ => none
  | .error e => e.projectionName

/-! ### Who is blamed -/

namespace Dispatcher

/-- Work leads from site `s` to site `s'` over the stretch `T`; a projection called `blamed`
fails in it, and nobody is reset. -/
structure Blames (d : Dispatcher ι σ) (s s' : Site ι σ) (T : List (Occurrence ι))
    (blamed : Option String) : Prop where
  trace : s'.trace = s.trace ++ T
  routes : s'.router.routes = s.router.routes
  isPoisoned : s'.router.isPoisoned = s.router.isPoisoned
  failed : (failedIn T).map (fun i => (d.projections i).name) = blamed.toList
  directives : directivesIn T = []
  resets : resetsIn T = []

variable {d : Dispatcher ι σ} {s s' s'' : Site ι σ} {T U : List (Occurrence ι)}
  {blamed : Option String}

namespace Blames

theorem refl (d : Dispatcher ι σ) (s : Site ι σ) : d.Blames s s [] none :=
  ⟨(List.append_nil _).symm, rfl, rfl, rfl, rfl, rfl⟩

/-- The first failure ends the work, so only the last piece may fail. -/
theorem trans (h : d.Blames s s' T none) (h' : d.Blames s' s'' U blamed) :
    d.Blames s s'' (T ++ U) blamed where
  trace := by rw [h'.trace, h.trace, List.append_assoc]
  routes := h'.routes.trans h.routes
  isPoisoned := h'.isPoisoned.trans h.isPoisoned
  failed := by
    rw [failedIn_append, List.map_append, h.failed, h'.failed]
    rfl
  directives := by rw [directivesIn_append, h.directives, h'.directives, List.append_nil]
  resets := by rw [resetsIn_append, h.resets, h'.resets, List.append_nil]

/-- Noting how a dispatch came out blames nobody. -/
theorem note {o : Occurrence ι} (h : d.Blames s s' T blamed) (hf : failedIn [o] = [])
    (hd : directivesIn [o] = []) (hr : resetsIn [o] = []) :
    d.Blames s (s'.note o) (T ++ [o]) blamed where
  trace := by rw [Site.note, h.trace, List.append_assoc]
  routes := h.routes
  isPoisoned := h.isPoisoned
  failed := by rw [failedIn_append, hf, List.append_nil, h.failed]
  directives := by rw [directivesIn_append, hd, List.append_nil, h.directives]
  resets := by rw [resetsIn_append, hr, List.append_nil, h.resets]

end Blames

variable [DecidableEq ι]

/-- A projection that fails blames itself. -/
theorem blames_invoke (d : Dispatcher ι σ) (i : ι) (p : Projectable) (s : Site ι σ) :
    ∃ T, d.Blames s (d.invoke i p s).2 T
      (match (d.invoke i p s).1 with
        | .ok () => none
        | .error _ => some (d.projections i).name) := by
  refine ⟨[.invoked i p (d.reaction i p s).confirmed (d.reaction i p s).outcome], rfl, rfl,
    rfl, ?_, rfl, rfl⟩
  show _ = Option.toList (match (d.reaction i p s).outcome with
    | .ok () => none
    | .error _ => some (d.projections i).name)
  cases (d.reaction i p s).outcome <;> rfl

/-- Whoever fails first is blamed, since nobody behind it gets the projectable. -/
theorem blames_invokeAll (d : Dispatcher ι σ) (p : Projectable) (is : List ι) (s : Site ι σ) :
    ∃ T, d.Blames s (d.invokeAll p is s).2 T (blame (d.invokeAll p is s).1) := by
  induction is generalizing s with
  | nil => exact ⟨[], .refl d s⟩
  | cons i rest ih =>
    obtain ⟨T, hT⟩ := blames_invoke d i p s
    rw [invokeAll]
    split <;> rename_i heq <;> rw [heq] at hT
    · exact ⟨T, hT⟩
    · obtain ⟨U, hU⟩ := ih _
      exact ⟨T ++ U, hT.trans hU⟩

/-- A dispatch blames a projection, or nobody if the routes refuse. -/
theorem blames_dispatch (d : Dispatcher ι σ) (p : Projectable) (s : Site ι σ) :
    ∃ T, d.Blames s (d.dispatch p s).2 T (blame (d.dispatch p s).1) := by
  -- asking changes what the router remembers, and nothing else about it
  have hasked : d.Blames s (asked s p.becauseOf) [] none :=
    ⟨(List.append_nil _).symm, Router.routes_matching .., Router.isPoisoned_matching .., rfl, rfl,
      rfl⟩
  have hall (found : List ι) : ∃ T, d.Blames s (d.invokeAll p found (marked s p)).2 T
      (blame (d.invokeAll p found (marked s p)).1) := by
    obtain ⟨T, hT⟩ := blames_invokeAll d p found (marked s p)
    have hmarked : d.Blames s (marked s p) [] none := { hasked with }
    exact ⟨[] ++ T, hmarked.trans hT⟩
  rcases hd : d.dispatch p s with ⟨outcome, s'⟩
  cases Dispatches.of_dispatch hd with
  | refused => exact ⟨[], .refl d s⟩
  | unrouted => exact ⟨[], hasked⟩
  | @failed found _ _ _ _ hinvoke | @handled found _ _ _ hinvoke =>
    obtain ⟨T, hT⟩ := hall found
    rw [hinvoke] at hT
    exact ⟨T, hT⟩

/-- Induction on the entries: those in front blame nobody. -/
theorem blames_dispatchEach (d : Dispatcher ι σ) (es : List Entry) (r : CycleCount)
    (s : Site ι σ) :
    ∃ T, d.Blames s (d.dispatchEach es r s).2 T (blame (d.dispatchEach es r s).1) := by
  induction es generalizing r s with
  | nil => exact ⟨[], .refl d s⟩
  | cons e rest ih =>
    obtain ⟨T, hT⟩ := blames_dispatch d (.ofEntry e) s
    rw [dispatchEach]
    split <;> rename_i heq <;> rw [heq] at hT
    · rename_i err s'
      exact ⟨_, { hT.note (o := .dispatched (.ofEntry e) (.error err)) rfl rfl rfl with }⟩
    · rename_i n s'
      obtain ⟨U, hU⟩ := ih (r.count n) (s'.note (.dispatched (.ofEntry e) (.ok n)))
      exact ⟨_, (hT.note rfl rfl rfl).trans hU⟩

/-- A failure to read blames nobody. -/
theorem blames_runCycle (d : Dispatcher ι σ) (s : Site ι σ) :
    ∃ T, d.Blames s (d.runCycle s).2 T (blame (d.runCycle s).1) := by
  have hread : d.Blames s (s.readNext d.config.batchSize).2 [] none := by
    unfold Site.readNext
    split <;> exact ⟨(List.append_nil _).symm, rfl, rfl, rfl, rfl, rfl⟩
  unfold runCycle
  split <;> rename_i heq <;> rw [heq] at hread
  · exact ⟨[], hread⟩
  · obtain ⟨T, hT⟩ := blames_dispatchEach d _ _ _
    exact ⟨[] ++ T, hread.trans hT⟩

/-- What was confirmed meanwhile is passed over, and that blames nobody. -/
theorem blames_redispatch (d : Dispatcher ι σ) (p : Projectable) (s : Site ι σ) :
    ∃ T, d.Blames s (d.redispatch p s).2 T (blame (d.redispatch p s).1) := by
  unfold redispatch
  split
  · exact ⟨[], .refl d s⟩
  · obtain ⟨T, hT⟩ := blames_dispatch d p s
    exact ⟨_, hT.note rfl rfl rfl⟩

/-- A round ends at its first failure as well. -/
theorem blames_redispatchEach (d : Dispatcher ι σ) (ps : List Projectable) (done : Nat)
    (s : Site ι σ) :
    ∃ T, d.Blames s (d.redispatchEach ps done s).2 T (blame (d.redispatchEach ps done s).1) := by
  induction ps generalizing done s with
  | nil => exact ⟨[], .refl d s⟩
  | cons p rest ih =>
    obtain ⟨T, hT⟩ := blames_redispatch d p s
    rw [redispatchEach]
    split <;> rename_i heq <;> rw [heq] at hT
    · exact ⟨T, hT⟩
    · obtain ⟨U, hU⟩ := ih _ _
      exact ⟨T ++ U, hT.trans hU⟩

end Dispatcher

/-! ### Who is reset -/

/-- The first projection on the routes that is called so. -/
def Dispatcher.called (d : Dispatcher ι σ) (s : Site ι σ) (name : String) : Option ι :=
  s.router.named? (fun i => (d.projections i).name) name

/-- The projection is on the routes, and these can be asked. -/
def Site.Registers (s : Site ι σ) (q : ι) : Prop :=
  s.router.isPoisoned = false ∧ ∃ route ∈ s.router.routes, route.projection = q

/-- Poisoned routes call nobody. -/
theorem Dispatcher.called_of_isPoisoned (d : Dispatcher ι σ) {s : Site ι σ}
    (h : s.router.isPoisoned) (name : String) : d.called s name = none := if_pos h

/-- Of the projections on the routes that share a name, the first is called by it. -/
theorem Dispatcher.called_of_registers (d : Dispatcher ι σ) {s : Site ι σ} {q : ι}
    (h : s.Registers q) :
    ∃ before route after, s.router.routes = before ++ route :: after ∧
      (∀ other ∈ before, (d.projections other.projection).name ≠ (d.projections q).name) ∧
      (d.projections route.projection).name = (d.projections q).name ∧
      d.called s (d.projections q).name = some route.projection := by
  obtain ⟨hsound, own, hown, rfl⟩ := h
  let isCalled (route : Route ι) : Bool :=
    (d.projections route.projection).name = (d.projections own.projection).name
  -- `own` itself answers to the name, so the search ends at it or before
  obtain ⟨route, hfind⟩ := Option.isSome_iff_exists.1
    (List.find?_isSome.2 ⟨own, hown, show isCalled own = true from decide_eq_true rfl⟩)
  obtain ⟨hname, before, after, hroutes, hbefore⟩ := List.find?_eq_some_iff_append.1 hfind
  refine ⟨before, route, after, hroutes, ?_, of_decide_eq_true hname, ?_⟩
  · intro other hother
    have hnot := hbefore other hother
    simpa [isCalled] using hnot
  · rw [called, Router.named?_of_sound hsound]
    exact congrArg (Option.map Route.projection) hfind

namespace Worker

/-- In the stretch `U` nothing is done but that the projections `is` are reset. -/
structure Resets (s s' : Site ι σ) (U : List (Occurrence ι)) (is : List ι) : Prop where
  trace : s'.trace = s.trace ++ U
  quiet : ∀ o ∈ U, ∃ i outcome, o = .wasReset i outcome
  resets : resetsIn U = is

namespace Resets

variable {s s' : Site ι σ} {U : List (Occurrence ι)} {is : List ι}

theorem none (h : s'.trace = s.trace) : Resets s s' [] [] :=
  ⟨h.trans (List.append_nil _).symm, by simp, rfl⟩

/-- Resets are no failures. -/
theorem failedIn_eq_nil (h : Resets s s' U is) : failedIn U = [] := by
  refine List.filterMap_eq_nil_iff.2 fun o ho => ?_
  obtain ⟨i, outcome, rfl⟩ := h.quiet o ho
  rfl

theorem directivesIn_eq_nil (h : Resets s s' U is) : directivesIn U = [] := by
  refine List.filterMap_eq_nil_iff.2 fun o ho => ?_
  obtain ⟨i, outcome, rfl⟩ := h.quiet o ho
  rfl

end Resets

/-- Who is reset under a directive about `e`. -/
def resetBy (d : Dispatcher ι σ) (s : Site ι σ) (e : DispatchError) : Directive → List ι
  | .restart => (e.projectionName.bind (d.called s)).toList
  | _ => []

/-- What failures, directives and resets a tick of a clock can add to the trace. -/
inductive Ticked (d : Dispatcher ι σ) (s s' : Site ι σ) (T : List (Occurrence ι)) : Prop
  | well : s'.trace = s.trace ++ T → failedIn T = [] → directivesIn T = [] → resetsIn T = [] →
      Ticked d s s' T
  | failed (e : DispatchError) (directive : Directive) :
      s'.trace = s.trace ++ T →
      (failedIn T).map (fun i => (d.projections i).name) = e.projectionName.toList →
      directivesIn T = [directive] → resetsIn T = resetBy d s e directive → Ticked d s s' T

namespace Ticked

variable {d : Dispatcher ι σ} {s s' : Site ι σ} {T : List (Occurrence ι)}

theorem trace (h : Ticked d s s' T) : s'.trace = s.trace ++ T := by
  cases h with
  | well htrace => exact htrace
  | failed _ _ htrace => exact htrace

/-- A tick sees one failure at most. -/
theorem length_failedIn_le (h : Ticked d s s' T) : (failedIn T).length ≤ 1 := by
  cases h with
  | well _ hfailed =>
    rw [hfailed]
    exact Nat.zero_le 1
  | failed e _ _ hfailed =>
    have hlength := congrArg List.length hfailed
    rw [List.length_map] at hlength
    rw [hlength]
    exact Option.length_toList_le

/-- Nobody is reset unless a supervisor says so. -/
theorem resetsIn_eq_nil (h : Ticked d s s' T) (hnot : .restart ∉ directivesIn T) :
    resetsIn T = [] := by
  cases h with
  | well _ _ _ hresets => exact hresets
  | failed e directive _ _ hdirectives hresets =>
    rw [hdirectives, List.mem_singleton] at hnot
    rw [hresets]
    cases directive with
    | restart => exact absurd rfl hnot
    | _ => rfl

/-- A restart calls for a name, and poisoned routes know none. -/
theorem resetsIn_of_isPoisoned (h : Ticked d s s' T) (hs : s.router.isPoisoned) :
    resetsIn T = [] := by
  cases h with
  | well _ _ _ hresets => exact hresets
  | failed e directive _ _ _ hresets =>
    rw [hresets]
    cases directive with
    | restart =>
      show (e.projectionName.bind (d.called s)).toList = []
      cases e.projectionName with
      | none => rfl
      | some name => exact congrArg Option.toList (d.called_of_isPoisoned hs name)
    | _ => rfl

/-- Whoever answers to the name of the projection that failed is reset. -/
theorem resetsIn_eq (h : Ticked d s s' T) {q : ι} (hq : q ∈ failedIn T)
    (hrestart : .restart ∈ directivesIn T) :
    resetsIn T = (d.called s (d.projections q).name).toList := by
  cases h with
  | well _ hfailed =>
    rw [hfailed] at hq
    cases hq
  | failed e directive _ hfailed hdirectives hresets =>
    rw [hdirectives, List.mem_singleton] at hrestart
    -- the name in the error is that of `q`
    have hname : (d.projections q).name ∈ e.projectionName.toList := by
      rw [← hfailed]
      exact List.mem_map_of_mem hq
    rw [hresets, ← hrestart, resetBy, Option.mem_toList.1 hname]
    rfl

end Ticked

/-- A failure, the directive about it, and what follows. -/
theorem ticked_of_blames {d : Dispatcher ι σ} {s s₁ s' : Site ι σ} {T U : List (Occurrence ι)}
    {round : Round} {time : Nat} {e : DispatchError} {attempt : Nat} {directive : Directive}
    (hT : d.Blames s s₁ T e.projectionName)
    (hU : Resets (s₁.note (.decided round time e attempt directive)) s' U
      (resetBy d (s₁.note (.decided round time e attempt directive)) e directive)) :
    Ticked d s s' (T ++ .decided round time e attempt directive :: U) := by
  -- nobody has changed the routes since the tick began
  have hroutes : resetBy d (s₁.note (.decided round time e attempt directive)) e directive
      = resetBy d s e directive := by
    cases directive with
    | restart =>
      have hcalled (name : String) : d.called s₁ name = d.called s name := by
        rw [Dispatcher.called, Dispatcher.called, Router.named?, Router.named?, hT.routes,
          hT.isPoisoned]
      show (e.projectionName.bind (d.called s₁)).toList
        = (e.projectionName.bind (d.called s)).toList
      rw [funext hcalled]
    | _ => rfl
  have hfailed : failedIn (.decided round time e attempt directive :: U) = [] := hU.failedIn_eq_nil
  -- the work before blames somebody, and the resets behind hold no directive
  have hdirectives : directivesIn (.decided round time e attempt directive :: U) = [directive] :=
    congrArg (directive :: ·) hU.directivesIn_eq_nil
  have hresets : resetsIn (.decided round time e attempt directive :: U)
    = resetBy d s e directive := hU.resets.trans hroutes
  refine .failed e directive ?_ ?_ ?_ ?_
  · rw [hU.trace, Site.note, hT.trace, List.append_assoc, List.append_assoc]
    rfl
  · rw [failedIn_append, hfailed, List.append_nil, hT.failed]
  · rw [directivesIn_append, hdirectives, hT.directives, List.nil_append]
  · rw [resetsIn_append, hresets, hT.resets, List.nil_append]

variable [DecidableEq ι]

/-- Whoever answers to the name in the error is reset; an error without a name resets nobody. -/
theorem resets_resetFailed (d : Dispatcher ι σ) (e : DispatchError) (s : Site ι σ) :
    ∃ U, Resets s (resetFailed d e s) U (e.projectionName.bind (d.called s)).toList := by
  unfold resetFailed
  cases e.projectionName with
  | none => exact ⟨[], .none rfl⟩
  | some name =>
    -- whom the reset looks up is whom `called` names
    show ∃ U, Resets s (d.resetNamed name s).2 U (d.called s name).toList
    unfold Dispatcher.resetNamed Dispatcher.called
    cases s.router.named? (fun i => (d.projections i).name) name with
    | none => exact ⟨[], .none rfl⟩
    | some i => exact ⟨[.wasReset i _], rfl, by simp, rfl⟩

/-- Only a restart resets, and moving the cursor is not on the trace. -/
theorem resets_obey (d : Dispatcher ι σ) (time : Nat) (e : DispatchError) (attempt : Nat)
    (w : Worker) (s : Site ι σ) (directive : Directive) :
    ∃ U, Resets s (obey d time e attempt w s directive).2 U (resetBy d s e directive) := by
  have hplace (target : Nat → Nat) (s : Site ι σ) :
      (place e.globalPosition target s).trace = s.trace := by
    cases e.globalPosition <;> rfl
  cases directive with
  | restart =>
    obtain ⟨U, hU⟩ := resets_resetFailed d e s
    exact ⟨U, { hU with trace := (hplace ..).trans hU.trace }⟩
  | _ => exact ⟨[], .none (hplace ..)⟩

theorem resets_obeyRecheck (d : Dispatcher ι σ) (e : DispatchError) (w : Worker) (s : Site ι σ)
    (directive : Directive) :
    ∃ U, Resets s (obeyRecheck d e w s directive).2 U (resetBy d s e directive) := by
  cases directive with
  | restart => exact resets_resetFailed d e s
  | _ => exact ⟨[], .none rfl⟩

/-- Both clocks do their work up to a failure, and then what the supervisor says. -/
theorem ticked_tick (d : Dispatcher ι σ) (decide : Supervisor) (round : Round) (time : Nat)
    (w : Worker) (s : Site ι σ) : ∃ T, Ticked d s (w.tick d decide round time s).2 T := by
  have hrested : Ticked d s s [] := .well (List.append_nil _).symm rfl rfl rfl
  cases round with
  | cycle =>
    obtain ⟨T, hT⟩ := d.blames_runCycle s
    show ∃ T, Ticked d s (w.cycle d decide time s).2 T
    unfold cycle
    split
    · exact ⟨[], hrested⟩
    · split <;> rename_i heq <;> rw [heq] at hT
      · exact ⟨T, .well hT.trace (List.map_eq_nil_iff.1 hT.failed) hT.directives hT.resets⟩
      · obtain ⟨U, hU⟩ := resets_obey d time _ _ _ _ _
        exact ⟨_, ticked_of_blames hT hU⟩
  | recheck =>
    obtain ⟨T, hT⟩ := d.blames_redispatchEach (d.overdue s) 0 s
    show ∃ T, Ticked d s (w.recheck d decide time s).2 T
    unfold recheck Dispatcher.redispatchOverdue
    split
    · exact ⟨[], hrested⟩
    · split <;> rename_i heq <;> rw [heq] at hT
      · exact ⟨T, .well hT.trace (List.map_eq_nil_iff.1 hT.failed) hT.directives hT.resets⟩
      · obtain ⟨U, hU⟩ := resets_obeyRecheck d _ _ _ _
        exact ⟨_, ticked_of_blames hT hU⟩

end Worker

/-! ### Ticks -/

namespace Watch

variable [DecidableEq ι]

/-- What is done at a move is what it adds to the trace. -/
theorem done_of_trace {w : Watch ι σ} {m : Move ι σ} {T : List (Occurrence ι)}
    (h : (w.make m).site.trace = w.site.trace ++ T) : w.done [m] = T := by
  show (w.make m).site.trace.drop w.site.trace.length = T
  rw [h, List.drop_left]

theorem ticked_make (w : Watch ι σ) (round : Round) (time : Nat) :
    Worker.Ticked w.dispatcher w.site (w.make (.tick round time)).site
      (w.done [.tick round time]) := by
  obtain ⟨T, hT⟩ := Worker.ticked_tick w.dispatcher w.supervisor round time w.worker w.site
  have hdone : w.done [.tick round time] = T := done_of_trace hT.trace
  rw [hdone]
  exact hT

/-- At a tick, a restart is about a name. -/
structure RestartsByName (w : Watch ι σ) (round : Round) (time : Nat) : Prop where
  single : (failedIn (w.done [.tick round time])).length ≤ 1
  still : .restart ∉ directivesIn (w.done [.tick round time]) →
    resetsIn (w.done [.tick round time]) = []
  /-- One projection is reset: the first on the routes with the name of the one that failed. -/
  restarted : ∀ q ∈ failedIn (w.done [.tick round time]),
    .restart ∈ directivesIn (w.done [.tick round time]) → w.site.Registers q →
    ∃ before route after, w.site.router.routes = before ++ route :: after ∧
      (∀ other ∈ before,
        (w.dispatcher.projections other.projection).name ≠ (w.dispatcher.projections q).name) ∧
      (w.dispatcher.projections route.projection).name = (w.dispatcher.projections q).name ∧
      resetsIn (w.done [.tick round time]) = [route.projection]
  /-- It is the one that failed, unless another one on the routes shares its name. -/
  unshared : ∀ q ∈ failedIn (w.done [.tick round time]),
    .restart ∈ directivesIn (w.done [.tick round time]) → w.site.Registers q →
    (∀ route ∈ w.site.router.routes,
      (w.dispatcher.projections route.projection).name = (w.dispatcher.projections q).name →
      route.projection = q) →
    resetsIn (w.done [.tick round time]) = [q]
  /-- Nobody is reset if the routes are poisoned. -/
  poisoned : w.site.router.isPoisoned → resetsIn (w.done [.tick round time]) = []

/-- **A restart resets the first projection of the name that failed**, once and no other, at
every tick of either clock. -/
theorem restarts_tick (w : Watch ι σ) (round : Round) (time : Nat) :
    w.RestartsByName round time := by
  have hticked := ticked_make w round time
  refine ⟨hticked.length_failedIn_le, hticked.resetsIn_eq_nil, ?_, ?_,
    hticked.resetsIn_of_isPoisoned⟩
  · intro q hq hrestart hregistered
    obtain ⟨before, route, after, hroutes, hbefore, hname, hcalled⟩ :=
      w.dispatcher.called_of_registers hregistered
    refine ⟨before, route, after, hroutes, hbefore, hname, ?_⟩
    rw [hticked.resetsIn_eq hq hrestart, hcalled]
    rfl
  · intro q hq hrestart hregistered hunshared
    obtain ⟨before, route, after, hroutes, -, hname, hcalled⟩ :=
      w.dispatcher.called_of_registers hregistered
    have hself : route.projection = q := by
      apply hunshared route _ hname
      rw [hroutes]
      exact List.mem_append_right _ List.mem_cons_self
    rw [hticked.resetsIn_eq hq hrestart, hcalled, hself]
    rfl

/-- At a tick, a restart is about the projection that failed. -/
def RestartsFailed (w : Watch ι σ) (round : Round) (time : Nat) : Prop :=
  ∀ q ∈ failedIn (w.done [.tick round time]),
    .restart ∈ directivesIn (w.done [.tick round time]) →
    (∃ route ∈ w.site.router.routes, route.projection = q) →
    resetsIn (w.done [.tick round time]) = [q]

/-- Two projections of one name, of which the second cannot handle the only entry. -/
def namesakes : Watch Bool Script.State :=
  let projections (isFirst : Bool) := Script.projection
    { name := "p", default := if isFirst then .confirm else .fail (.corruption "broken") }
  (Watch.start (fun _ => default) projections fun _ _ => .restart).run
    [.register ⟨true, ["opened"], "", List.cons_ne_nil _ _⟩,
      .register ⟨false, ["closed"], "", List.cons_ne_nil _ _⟩,
      .operate (.append ⟨⟨"s"⟩, .any, [⟨"closed", 1, .null⟩], .none, none⟩)]

/-- The second projection fails, and the first one loses its state; so it goes when the entry is
overdue and fails again. -/
theorem not_restartsFailed_namesakes :
    ¬ namesakes.RestartsFailed .cycle 0 ∧
      ¬ (namesakes.run [.tick .cycle 0, .setClock 31000000000]).RestartsFailed .recheck 1 := by
  constructor
  · intro h
    have hreset := h false (by decide) (by decide) (by decide)
    revert hreset
    decide
  · intro h
    have hreset := h false (by decide +kernel) (by decide +kernel) (by decide)
    revert hreset
    decide +kernel

end Watch

end EventJournal
