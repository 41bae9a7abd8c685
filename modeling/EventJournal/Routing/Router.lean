/-
EventJournal/Routing/Router.lean

Who gets a projectable.  A route hands projectables to one projection whenever one of
its patterns is passed by one of the reasons.  A router holds routes in the order of
their registration; the projections it finds for some reasons come in the order of
their first matching route, each once (`mem_resolve`, `resolve_append`).

The answer for a single plain reason is remembered until the routes change.  What is
remembered is what would be found again, so `matching` answers as `resolve` does.

A change of the routes that breaks off halfway poisons the router.  Nobody can tell then what
the routes are worth, so from then on they are neither changed nor asked; what was remembered
before is still answered.

Projections are known here by a key only; keys tell apart projections of equal names.
-/
import EventJournal.Routing.Pattern
import EventJournal.Table
import EventJournal.Text.Quoted

namespace EventJournal

/-- Why routes cannot be registered or asked. -/
inductive RoutingError where
  /-- A route for this projection has no pattern. -/
  | noPatterns (projection : String)
  /-- A change of the routes broke off halfway. -/
  | poisoned
deriving DecidableEq, Repr

def RoutingError.message : RoutingError → String
  | noPatterns name => "projection '" ++ name ++ "' registered without any routing pattern"
  | poisoned => "projection registry lock poisoned"

/-! ### Routes -/

/-- A projection and the patterns of the reasons for which it gets projectables. -/
structure Route (ι : Type) where
  projection : ι
  patterns : List String
  description : String
  patterns_ne_nil : patterns ≠ []
deriving Repr

namespace Route

variable {ι : Type}

/-- One star is enough for a route that takes everything. -/
theorem star_ne_nil : ["*"] ≠ [] := List.cons_ne_nil _ _

/-- A route for the projection `projection`, called `name`. -/
def of (name : String) (projection : ι) (patterns : List String) (description : String) :
    Except RoutingError (Route ι) :=
  if h : patterns = [] then .error (.noPatterns name)
  else .ok ⟨projection, patterns, description, h⟩

/-- Some reason passes some pattern. -/
def Matches (r : Route ι) (reasons : List String) : Prop :=
  ∃ reason ∈ reasons, ∃ p ∈ r.patterns, (Pattern.compile p).Matches reason

instance (r : Route ι) (reasons : List String) : Decidable (r.Matches reasons) :=
  inferInstanceAs (Decidable (∃ reason ∈ reasons, ∃ p ∈ r.patterns, _))

/-- A description of the route, with the projection given by its name. -/
def text (name : ι → String) (r : Route ι) : String :=
  Text.described "ProjectToDescription"
    [("projection", Text.quoted (name r.projection)),
     ("patterns", Text.listed (r.patterns.map Text.quoted)),
     ("description", Text.quoted r.description)] false

end Route

/-! ### Routers -/

/-- Routes in order of registration, and answers that are remembered. -/
structure Router (ι : Type) where
  routes : List (Route ι)
  remembered : Table String (List ι)
  /-- A change of the routes broke off halfway. -/
  isPoisoned : Bool := false

namespace Router

variable {ι : Type}

/-- The router without routes. -/
def empty : Router ι := { routes := [], remembered := ∅ }

instance : Inhabited (Router ι) := ⟨empty⟩

/-- Adds a route behind the others. -/
def register (r : Router ι) (route : Route ι) : Except RoutingError Unit × Router ι :=
  if r.isPoisoned then (.error .poisoned, r)
  else (.ok (), { routes := r.routes ++ [route], remembered := ∅ })

theorem register_of_sound {r : Router ι} (h : r.isPoisoned = false) (route : Route ι) :
    r.register route = (.ok (), { routes := r.routes ++ [route], remembered := ∅ }) :=
  if_neg (Bool.eq_false_iff.1 h)

/-- Takes all routes away. -/
def clear (r : Router ι) : Except RoutingError Unit × Router ι :=
  if r.isPoisoned then (.error .poisoned, r) else (.ok (), empty)

theorem clear_of_sound {r : Router ι} (h : r.isPoisoned = false) : r.clear = (.ok (), empty) :=
  if_neg (Bool.eq_false_iff.1 h)

/-- What a change leaves behind that breaks off when the router is like this. -/
def poison (r : Router ι) : Router ι := { r with isPoisoned := true }

/-- The number of routes, as far as it can be told. -/
def size (r : Router ι) : Nat := if r.isPoisoned then 0 else r.routes.length

def isEmpty (r : Router ι) : Bool := r.size = 0

/-- The projection of the first route whose projection is called so. -/
def named? (name : ι → String) (r : Router ι) (wanted : String) : Option ι :=
  if r.isPoisoned then none
  else (r.routes.find? fun route => name route.projection = wanted).map Route.projection

theorem named?_of_sound {r : Router ι} (h : r.isPoisoned = false) (name : ι → String)
    (wanted : String) : r.named? name wanted
      = (r.routes.find? fun route => name route.projection = wanted).map Route.projection :=
  if_neg (Bool.eq_false_iff.1 h)

/-- Answers are remembered for one reason, without a star and not ending in a point. -/
def single? : List String → Option String
  | [reason] =>
    if Pattern.star ∈ reason.toList ∨ reason.toList.getLast? = some '.' then none
    else some reason
  | _ => none

theorem eq_of_single? {reasons : List String} {reason : String}
    (h : single? reasons = some reason) : reasons = [reason] := by
  unfold single? at h
  split at h
  · split at h
    · cases h
    · cases h
      rfl
  · cases h

variable [DecidableEq ι]

omit [DecidableEq ι] in
/-- The projections of the routes that match some reasons, one for each route. -/
def hits (routes : List (Route ι)) (reasons : List String) : List ι :=
  (routes.filter fun route => route.Matches reasons).map Route.projection

/-- The projections of the routes that match some reasons, in the order of the first such
route of each. -/
def resolve (routes : List (Route ι)) (reasons : List String) : List ι :=
  (hits routes reasons).eraseDups

theorem mem_resolve {routes : List (Route ι)} {reasons : List String} {i : ι} :
    i ∈ resolve routes reasons ↔
      ∃ route ∈ routes, route.Matches reasons ∧ route.projection = i := by
  simp only [resolve, hits, List.mem_eraseDups, List.mem_map, List.mem_filter,
    decide_eq_true_eq, and_assoc]

theorem resolve_append (routes more : List (Route ι)) (reasons : List String) :
    resolve (routes ++ more) reasons
      = resolve routes reasons
        ++ ((hits more reasons).removeAll (hits routes reasons)).eraseDups := by
  simp only [resolve, hits, List.filter_append, List.map_append, List.eraseDups_append]

omit [DecidableEq ι] in
/-- The answer that is remembered for these reasons. -/
def known? (r : Router ι) (reasons : List String) : Option (List ι) :=
  (single? reasons).bind r.remembered.get?

omit [DecidableEq ι] in
/-- The router that remembers an answer, if answers for these reasons are remembered. -/
def remember (r : Router ι) (reasons : List String) (found : List ι) : Router ι :=
  match single? reasons with
  | none => r
  | some reason => { r with remembered := r.remembered.insert reason found }

/-- The projections that get a projectable with these reasons, and the router that
remembers the answer. -/
def matching (r : Router ι) (reasons : List String) :
    Except RoutingError (List ι) × Router ι :=
  match r.known? reasons with
  | some found => (.ok found, r)
  | none =>
    if r.isPoisoned then (.error .poisoned, r)
    else
      let found := resolve r.routes reasons
      (.ok found, r.remember reasons found)

/-- Only a poisoned router refuses to answer, and it stays as it is. -/
theorem of_matching_error {r : Router ι} {reasons : List String} {e : RoutingError}
    (h : (r.matching reasons).1 = .error e) :
    e = .poisoned ∧ r.isPoisoned ∧ r.known? reasons = none ∧ (r.matching reasons).2 = r := by
  unfold matching at h ⊢
  cases hknown : r.known? reasons with
  | some found =>
    rw [hknown] at h
    cases h
  | none =>
    rw [hknown] at h
    dsimp only at h ⊢
    by_cases hp : r.isPoisoned
    · rw [if_pos hp] at h ⊢
      cases h
      exact ⟨rfl, hp, rfl, rfl⟩
    · rw [if_neg hp] at h
      cases h

/-- A router that is not poisoned answers every question. -/
theorem exists_answer_of_sound {r : Router ι} (h : r.isPoisoned = false) (reasons : List String) :
    ∃ found, (r.matching reasons).1 = .ok found := by
  cases hanswer : (r.matching reasons).1 with
  | ok found => exact ⟨found, rfl⟩
  | error e =>
    have hpoisoned := (of_matching_error hanswer).2.1
    rw [h] at hpoisoned
    cases hpoisoned

omit [DecidableEq ι] in
@[simp] theorem routes_remember (r : Router ι) (reasons : List String) (found : List ι) :
    (r.remember reasons found).routes = r.routes := by
  unfold remember
  split <;> rfl

omit [DecidableEq ι] in
@[simp] theorem isPoisoned_remember (r : Router ι) (reasons : List String) (found : List ι) :
    (r.remember reasons found).isPoisoned = r.isPoisoned := by
  unfold remember
  split <;> rfl

/-- To ask changes neither the routes nor whether they can be asked. -/
@[simp] theorem routes_matching (r : Router ι) (reasons : List String) :
    (r.matching reasons).2.routes = r.routes := by
  unfold matching
  split
  · rfl
  · split
    · rfl
    · exact routes_remember ..

@[simp] theorem isPoisoned_matching (r : Router ι) (reasons : List String) :
    (r.matching reasons).2.isPoisoned = r.isPoisoned := by
  unfold matching
  split
  · rfl
  · split
    · rfl
    · exact isPoisoned_remember ..

omit [DecidableEq ι] in
/-- A description of the router, with projections given by their names. -/
def text (name : ι → String) (r : Router ι) : String :=
  let routes := Text.listed (r.routes.map (Route.text name))
  let poisoned := if r.isPoisoned then "true" else "false"
  let guarded := Text.described "RwLock" [("data", routes), ("poisoned", poisoned)] true
  Text.described "ProjectionRouter" [("descriptions", guarded)] true

end Router

end EventJournal
