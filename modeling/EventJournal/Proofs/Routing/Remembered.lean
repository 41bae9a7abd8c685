/-
EventJournal/Proofs/Routing/Remembered.lean

What a router remembers is what it would find again.

A router answers some questions from memory.  That cannot be told from its answers: a new
route and a clearing make it forget everything, and between them the routes stay, so what
was found once for a reason is what would be found now (`Router.Fresh`).  An answer that
nobody is to be handed anything is remembered like any other.

Main result: after any sequence of calls, an answer is the one that the routes registered
since the last clearing give (`matching_run`).  These are the projections with a matching
route, each once, in the order of their first matching route (`Router.Finds`).
-/
import EventJournal.Routing.Router
import Mathlib.Data.List.Basic

namespace EventJournal

namespace Router

variable {ι : Type}

/-! ### Calls -/

/-- What is asked of a router. -/
inductive Call (ι : Type) where
  | register (route : Route ι)
  | clear
  | ask (reasons : List String)

/-- The routes after a call, if they were `routes` before. -/
def Call.routes (routes : List (Route ι)) : Call ι → List (Route ι)
  | register route => routes ++ [route]
  | clear => []
  | ask _ => routes

/-- The routes that were registered since the last clearing. -/
def registered (calls : List (Call ι)) : List (Route ι) := calls.foldl Call.routes []

variable [DecidableEq ι]

/-- The router after a call. -/
def make (r : Router ι) : Call ι → Router ι
  | .register route => (r.register route).2
  | .clear => r.clear.2
  | .ask reasons => (r.matching reasons).2

/-- The router after some calls, one after the other. -/
def run (r : Router ι) (calls : List (Call ι)) : Router ι := calls.foldl make r

/-! ### What routes find -/

/-- The place of the first route that matches and hands to the projection. -/
def firstMatch (routes : List (Route ι)) (reasons : List String) (i : ι) : Nat :=
  routes.findIdx fun route => route.Matches reasons ∧ route.projection = i

/-- The projections with a matching route, in the order of their first matching route. -/
structure Finds (routes : List (Route ι)) (reasons : List String) (found : List ι) : Prop where
  mem : ∀ i, i ∈ found ↔ ∃ route ∈ routes, route.Matches reasons ∧ route.projection = i
  once : found.Nodup
  order : found.Pairwise fun i i' => firstMatch routes reasons i < firstMatch routes reasons i'

/-- The first match is the route in front, or stands one place behind that of the rest. -/
theorem firstMatch_cons (route : Route ι) (routes : List (Route ι)) (reasons : List String)
    (i : ι) :
    firstMatch (route :: routes) reasons i
      = if route.Matches reasons ∧ route.projection = i then 0
        else firstMatch routes reasons i + 1 := by
  rw [firstMatch, List.findIdx_cons]
  by_cases h : route.Matches reasons ∧ route.projection = i
  · simp [h]
  · simp [h, firstMatch]

/-- Among the projections that pass a test, the first hits come in the order of their routes.
The test leaves room for those that the routes in front have already handed to. -/
theorem pairwise_firstMatch (routes : List (Route ι)) (reasons : List String) (test : ι → Bool) :
    ((hits routes reasons).filter test).eraseDups.Pairwise
      fun i i' => firstMatch routes reasons i < firstMatch routes reasons i' := by
  induction routes generalizing test with
  | nil => simp [hits]
  | cons route rest ih =>
    -- what is not handed to by `route` stands one place further back than it does in `rest`
    have hlater {test : ι → Bool}
        (htest : ∀ i, test i → ¬ (route.Matches reasons ∧ route.projection = i)) :
        ((hits rest reasons).filter test).eraseDups.Pairwise fun i i' =>
          firstMatch (route :: rest) reasons i < firstMatch (route :: rest) reasons i' := by
      refine (ih test).imp_of_mem fun {i i'} hi hi' hlt => ?_
      rw [List.mem_eraseDups, List.mem_filter] at hi hi'
      rw [firstMatch_cons, firstMatch_cons, if_neg (htest i hi.2), if_neg (htest i' hi'.2)]
      omega
    by_cases hm : route.Matches reasons
    · have hhits : hits (route :: rest) reasons = route.projection :: hits rest reasons := by
        simp [hits, hm]
      rw [hhits]
      by_cases hp : test route.projection
      · -- `route` is the first match of its own projection, and all others match behind it
        rw [List.filter_cons_of_pos hp, List.eraseDups_cons, List.filter_filter]
        have hother (i : ι) (h : (!i == route.projection && test i) = true) :
            ¬ (route.Matches reasons ∧ route.projection = i) := by
          rintro ⟨-, rfl⟩
          simp at h
        refine .cons (fun i hi => ?_) (hlater hother)
        rw [List.mem_eraseDups, List.mem_filter] at hi
        rw [firstMatch_cons, firstMatch_cons, if_pos ⟨hm, rfl⟩, if_neg (hother i hi.2)]
        exact Nat.succ_pos _
      · -- a route further in front has handed to this projection
        rw [List.filter_cons_of_neg hp]
        refine hlater fun i hi h => hp ?_
        rwa [h.2]
    · have hhits : hits (route :: rest) reasons = hits rest reasons := by
        simp [hits, hm]
      rw [hhits]
      exact hlater fun i _ h => hm h.1

theorem finds_resolve (routes : List (Route ι)) (reasons : List String) :
    Finds routes reasons (resolve routes reasons) := by
  have horder := pairwise_firstMatch routes reasons fun _ => true
  rw [List.filter_true] at horder
  refine ⟨fun i => mem_resolve, horder.imp fun {i i'} hlt heq => ?_, horder⟩
  rw [heq] at hlt
  exact Nat.lt_irrefl _ hlt

/-! ### Memory -/

/-- The router holds these routes, and what it remembers of a reason is what they find. -/
structure Fresh (r : Router ι) (held : List (Route ι)) : Prop where
  routes : r.routes = held
  remembered : ∀ reason found, r.remembered.get? reason = some found →
    found = resolve held [reason]

theorem fresh_of_forgotten {r : Router ι} (h : r.remembered = ∅) : r.Fresh r.routes where
  routes := rfl
  remembered reason found hfound := by
    rw [h] at hfound
    cases hfound

omit [DecidableEq ι] in
theorem eq_of_known? {r : Router ι} {reasons : List String} {found : List ι}
    (h : r.known? reasons = some found) :
    ∃ reason, reasons = [reason] ∧ r.remembered.get? reason = some found := by
  obtain ⟨reason, hsingle, hfound⟩ := Option.bind_eq_some_iff.1 h
  exact ⟨reason, eq_of_single? hsingle, hfound⟩

variable {r : Router ι} {routes : List (Route ι)}

/-- Whatever a fresh router answers is what its routes find. -/
theorem Fresh.eq_of_matching (h : r.Fresh routes) {reasons : List String} {found : List ι}
    (hanswer : (r.matching reasons).1 = .ok found) : found = resolve routes reasons := by
  unfold Router.matching at hanswer
  cases hknown : r.known? reasons with
  | some known =>
    rw [hknown] at hanswer
    cases hanswer
    -- it comes from memory, where only found answers stand
    obtain ⟨reason, rfl, hfound⟩ := eq_of_known? hknown
    exact h.remembered reason found hfound
  | none =>
    rw [hknown] at hanswer
    dsimp only at hanswer
    split at hanswer
    · cases hanswer
    · cases hanswer
      rw [h.routes]

/-- What is remembered from now on has just been found. -/
theorem Fresh.remember (h : r.Fresh routes) (reasons : List String) :
    (r.remember reasons (resolve routes reasons)).Fresh routes where
  routes := (routes_remember ..).trans h.routes
  remembered reason found hfound := by
    unfold Router.remember at hfound
    split at hfound
    · exact h.remembered reason found hfound
    · rename_i reason' hsingle
      -- at most this one reason was added to what is remembered
      rw [eq_of_single? hsingle, Table.get?_insert] at hfound
      split at hfound
      · rename_i hreason
        cases hfound
        rw [hreason]
      · exact h.remembered reason found hfound

/-- To ask keeps a router fresh. -/
theorem Fresh.matching (h : r.Fresh routes) (reasons : List String) :
    (r.matching reasons).2.Fresh routes := by
  unfold Router.matching
  split
  · exact h
  · split
    · exact h
    · rw [h.routes]
      exact h.remember reasons

/-- A fresh router that is not poisoned answers as its routes do. -/
theorem Fresh.answer (h : r.Fresh routes) (hsound : r.isPoisoned = false)
    (reasons : List String) : (r.matching reasons).1 = .ok (resolve routes reasons) := by
  obtain ⟨found, hanswer⟩ := exists_answer_of_sound hsound reasons
  rw [hanswer, h.eq_of_matching hanswer]

/-- A change that breaks off in a router like this leaves a fresh one behind. -/
theorem Fresh.poison (h : r.Fresh routes) : r.poison.Fresh routes := ⟨h.routes, h.remembered⟩

/-- What was not asked before is found now as well as later. -/
theorem answers_remember (r : Router ι) {reasons : List String} (hnew : r.known? reasons = none)
    (hsound : r.isPoisoned = false) (reasons' : List String) :
    ((r.remember reasons (resolve r.routes reasons)).matching reasons').1
      = (r.matching reasons').1 := by
  unfold Router.remember
  cases hsingle : single? reasons with
  | none => rfl
  | some reason =>
    cases hsingle' : single? reasons' with
    | none =>
      -- for such reasons nothing is remembered at all
      simp only [Router.matching, known?, hsingle', Option.bind_none, hsound, Bool.false_eq_true,
        if_false]
    | some reason' =>
      by_cases heq : reason' = reason
      · obtain rfl : reasons' = reasons := by
          rw [eq_of_single? hsingle, eq_of_single? hsingle', heq]
        -- the same question was new, so without the memory the routes would be asked
        have hget : r.remembered.get? reason = none := by rwa [known?, hsingle] at hnew
        simp only [Router.matching, known?, hsingle, Option.bind_some, Table.get?_insert, hget,
          if_true, hsound, Bool.false_eq_true, if_false]
      · simp only [Router.matching, known?, hsingle', Option.bind_some, Table.get?_insert, heq,
          if_false, hsound, Bool.false_eq_true]
        split <;> rfl

/-- To ask for some reasons changes no answer, whatever is remembered. -/
theorem answers_matching (r : Router ι) (reasons reasons' : List String) :
    ((r.matching reasons).2.matching reasons').1 = (r.matching reasons').1 := by
  cases hknown : r.known? reasons with
  | some found =>
    -- an answer from memory changes nothing
    have hsame : (r.matching reasons).2 = r := by rw [Router.matching, hknown]
    rw [hsame]
  | none =>
    cases hsound : r.isPoisoned with
    | true =>
      -- nor does one that poisoned routes refuse
      have hsame : (r.matching reasons).2 = r := by
        rw [Router.matching, hknown]
        exact congrArg Prod.snd (if_pos hsound)
      rw [hsame]
    | false =>
      have hremember : (r.matching reasons).2 = r.remember reasons (resolve r.routes reasons) := by
        rw [Router.matching, hknown]
        exact congrArg Prod.snd (if_neg (Bool.eq_false_iff.1 hsound))
      rw [hremember]
      exact answers_remember r hknown hsound reasons'

/-! ### Runs -/

/-- Calls that come to an end do not poison a router. -/
theorem isPoisoned_make (hsound : r.isPoisoned = false) (call : Call ι) :
    (r.make call).isPoisoned = false := by
  cases call with
  | register route => rw [Router.make, register_of_sound hsound]
  | clear =>
    rw [Router.make, clear_of_sound hsound]
    rfl
  | ask reasons => exact (isPoisoned_matching ..).trans hsound

theorem Fresh.make (h : r.Fresh routes) (hsound : r.isPoisoned = false) (call : Call ι) :
    (r.make call).Fresh (call.routes routes) := by
  cases call with
  | register route =>
    rw [Router.make, register_of_sound hsound, Call.routes, ← h.routes]
    -- everything is forgotten, since any answer may be another one now
    exact fresh_of_forgotten rfl
  | clear =>
    rw [Router.make, clear_of_sound hsound]
    exact fresh_of_forgotten rfl
  | ask reasons => exact h.matching reasons

/-- Calls keep a router fresh and do not poison it, by induction on the calls. -/
theorem Fresh.run (h : r.Fresh routes) (hsound : r.isPoisoned = false) (calls : List (Call ι)) :
    (r.run calls).Fresh (calls.foldl Call.routes routes) ∧ (r.run calls).isPoisoned = false := by
  induction calls generalizing r routes with
  | nil => exact ⟨h, hsound⟩
  | cons call rest ih => exact ih (h.make hsound call) (isPoisoned_make hsound call)

theorem fresh_run (calls : List (Call ι)) :
    (empty.run calls).Fresh (registered calls) ∧ (empty.run calls).isPoisoned = false :=
  (fresh_of_forgotten rfl).run rfl calls

/-- **The memory of a router cannot be told from its answers.**  After any calls it answers as
the routes do that were registered since the last clearing, and what it remembers of a reason
is what they find for this reason. -/
theorem matching_run (calls : List (Call ι)) :
    (∀ reasons, ∃ found, ((empty.run calls).matching reasons).1 = .ok found ∧
      Finds (registered calls) reasons found ∧ found = resolve (registered calls) reasons) ∧
    ∀ reason found, (empty.run calls).remembered.get? reason = some found →
      found = resolve (registered calls) [reason] := by
  obtain ⟨hfresh, hsound⟩ := fresh_run calls
  refine ⟨fun reasons => ?_, hfresh.remembered⟩
  exact ⟨_, hfresh.answer hsound reasons, finds_resolve _ reasons, rfl⟩

/-- Nothing is found for the reason `b`, until a route for it is registered. -/
example : let calls : List (Call Nat) :=
      [.register ⟨7, ["a"], "", by simp⟩, .ask ["b"], .ask ["a"], .register ⟨3, ["*"], "", by simp⟩]
    ((empty.run (calls.take 2)).matching ["b"]).1 = .ok [] ∧
      ((empty.run calls).matching ["b"]).1 = .ok [3] ∧
      ((empty.run calls).matching ["a"]).1 = .ok [7, 3] := by
  decide

end Router

end EventJournal
