/-
EventJournal/Proofs/Routing/Reasons.lean

Who is found when reasons or routes are put together.

A route looks at one reason at a time (`Route.matches_iff_exists`).  So of a list of reasons
only its members count, and a projection is found for a list if it is found for a member; the
order in which projections are found is the order of the routes, whatever the reasons are.  A
batch has the types of its entries as reasons, so it reaches whom its entries reach one by one.

A route is registered behind the others.  Whoever was found before is therefore found in the
same place, and the projection of the new route comes last, if it comes new (`resolve_concat`).

Main result: all of this holds of the answers of a router, after any calls and whether it
answers from memory or not (`routesBySet_run`).
-/
import EventJournal.Projectable
import EventJournal.Proofs.Routing.Remembered

namespace EventJournal

variable {ι : Type}

namespace Route

/-- A route matches reasons if it matches one of them. -/
theorem matches_iff_exists {r : Route ι} {reasons : List String} :
    r.Matches reasons ↔ ∃ reason ∈ reasons, r.Matches [reason] := by
  simp only [Matches, List.mem_singleton, exists_eq_left]

/-- Of reasons only their set counts. -/
theorem matches_congr {r : Route ι} {reasons reasons' : List String}
    (h : ∀ reason, reason ∈ reasons ↔ reason ∈ reasons') :
    r.Matches reasons ↔ r.Matches reasons' := by
  simp only [Matches, h]

end Route

namespace Router

variable [DecidableEq ι]

/-! ### Reasons -/

theorem resolve_congr {reasons reasons' : List String}
    (h : ∀ reason, reason ∈ reasons ↔ reason ∈ reasons') (routes : List (Route ι)) :
    resolve routes reasons = resolve routes reasons' := by
  have hhits : hits routes reasons = hits routes reasons' := by
    unfold hits
    refine congrArg _ (List.filter_congr fun route _ => ?_)
    rw [decide_eq_decide]
    exact Route.matches_congr h
  rw [resolve, resolve, hhits]

/-- Who is found for reasons is found for one of them. -/
theorem mem_resolve_iff_exists {routes : List (Route ι)} {reasons : List String} {i : ι} :
    i ∈ resolve routes reasons ↔ ∃ reason ∈ reasons, i ∈ resolve routes [reason] := by
  simp only [mem_resolve]
  constructor
  · rintro ⟨route, hroute, hmatches, rfl⟩
    obtain ⟨reason, hreason, hsingle⟩ := Route.matches_iff_exists.1 hmatches
    exact ⟨reason, hreason, route, hroute, hsingle, rfl⟩
  · rintro ⟨reason, hreason, route, hroute, hsingle, rfl⟩
    exact ⟨route, hroute, Route.matches_iff_exists.2 ⟨reason, hreason, hsingle⟩, rfl⟩

/-- The types of entries find whom the type of an entry finds. -/
theorem mem_resolve_reasonsOf {routes : List (Route ι)} {entries : List Entry} {i : ι} :
    i ∈ resolve routes (reasonsOf entries) ↔ ∃ e ∈ entries, i ∈ resolve routes [e.entryType] := by
  rw [mem_resolve_iff_exists]
  constructor
  · rintro ⟨reason, hreason, hi⟩
    obtain ⟨e, he, rfl⟩ := mem_reasonsOf.1 hreason
    exact ⟨e, he, hi⟩
  · rintro ⟨e, he, hi⟩
    exact ⟨e.entryType, mem_reasonsOf.2 ⟨e, he, rfl⟩, hi⟩

/-! ### Routes -/

/-- One more route adds its projection at the end, if it matches and the projection is new. -/
theorem resolve_concat (routes : List (Route ι)) (route : Route ι) (reasons : List String) :
    resolve (routes ++ [route]) reasons
      = resolve routes reasons
        ++ if route.Matches reasons ∧ route.projection ∉ resolve routes reasons then
            [route.projection]
          else [] := by
  have hmem : route.projection ∈ hits routes reasons ↔
      route.projection ∈ resolve routes reasons := List.mem_eraseDups.symm
  -- of the new route only what was not found before is kept
  rw [resolve_append]
  congr 1
  by_cases hmatches : route.Matches reasons
  · have hhits : hits [route] reasons = [route.projection] := by simp [hits, hmatches]
    rw [hhits, List.removeAll]
    by_cases hold : route.projection ∈ resolve routes reasons
    · simp [hmem.2 hold, hold]
    · simp [mt hmem.1 hold, hmatches, hold, List.eraseDups_cons]
  · have hhits : hits [route] reasons = [] := by simp [hits, hmatches]
    rw [hhits, if_neg fun h => hmatches h.1]
    rfl

/-! ### Answers -/

/-- What a router answers for some reasons after some calls. -/
def answer (calls : List (Call ι)) (reasons : List String) : Except RoutingError (List ι) :=
  ((empty.run calls).matching reasons).1

theorem answer_eq (calls : List (Call ι)) (reasons : List String) :
    answer calls reasons = .ok (resolve (registered calls) reasons) :=
  (fresh_run calls).1.answer (fresh_run calls).2 reasons

/-- The projection is among those that are found for some reasons after some calls. -/
def Reaches (calls : List (Call ι)) (reasons : List String) (i : ι) : Prop :=
  ∃ found, answer calls reasons = .ok found ∧ i ∈ found

theorem reaches_iff {calls : List (Call ι)} {reasons : List String} {i : ι} :
    Reaches calls reasons i ↔ i ∈ resolve (registered calls) reasons := by
  simp only [Reaches, answer_eq, Except.ok.injEq, exists_eq_left']

/-- A router goes by the set of the reasons, and its answers grow at their ends. -/
structure RoutesBySet (calls : List (Call ι)) : Prop where
  /-- There always is an answer. -/
  answers : ∀ reasons, ∃ found, answer calls reasons = .ok found
  /-- Reasons with the same members have the same answer, in the same order, whatever was asked
  before. -/
  congr : ∀ calls' reasons reasons', registered calls' = registered calls →
    (∀ reason, reason ∈ reasons' ↔ reason ∈ reasons) →
    answer calls' reasons' = answer calls reasons
  /-- Who is found for some reasons is found for one of them. -/
  union : ∀ reasons i, Reaches calls reasons i ↔ ∃ reason ∈ reasons, Reaches calls [reason] i
  /-- A new route leaves every answer as it is, or adds its projection at the end. -/
  grows : ∀ (route : Route ι) reasons found, answer calls reasons = .ok found →
    answer (calls ++ [.register route]) reasons
      = .ok (found ++ if route.Matches reasons ∧ route.projection ∉ found then
          [route.projection]
        else [])
  /-- A batch is a projectable that reaches whom its entries reach. -/
  batch : ∀ entries : List Entry, entries ≠ [] →
    ∃ p, Projectable.ofEntries? entries = some p ∧
      ∀ i, Reaches calls p.becauseOf i ↔
        ∃ e ∈ entries, Reaches calls (Projectable.ofEntry e).becauseOf i

theorem becauseOf_ofEntries? {entries : List Entry} (h : entries ≠ []) :
    ∃ p, Projectable.ofEntries? entries = some p ∧ p.becauseOf = reasonsOf entries := by
  unfold Projectable.ofEntries?
  rw [List.head?_eq_some_head h, List.getLast?_eq_some_getLast h]
  exact ⟨_, rfl, rfl⟩

/-- **Routing depends on the set of the reasons only**, and registering a route extends it. -/
theorem routesBySet_run (calls : List (Call ι)) : RoutesBySet calls where
  answers reasons := ⟨_, answer_eq calls reasons⟩
  congr calls' reasons reasons' hcalls hreasons := by
    rw [answer_eq, answer_eq, hcalls]
    exact congrArg _ (resolve_congr hreasons _)
  union reasons i := by
    simp only [reaches_iff]
    exact mem_resolve_iff_exists
  grows route reasons found hfound := by
    have hregistered : registered (calls ++ [.register route]) = registered calls ++ [route] :=
      List.foldl_concat ..
    rw [answer_eq] at hfound
    cases hfound
    rw [answer_eq, hregistered, resolve_concat]
  batch entries hne := by
    obtain ⟨p, hp, hreasons⟩ := becauseOf_ofEntries? hne
    refine ⟨p, hp, fun i => ?_⟩
    simp only [reaches_iff, hreasons]
    exact mem_resolve_reasonsOf

end Router

end EventJournal
