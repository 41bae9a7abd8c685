/-
EventJournal/Proofs/Routing/Wildcard.lean

What a pattern stands for, said without compiling it.

A pattern is a body between two ends, and a star opens an end: any text may stand there
(`Pattern.Covers`).  A single star opens both ends and has no body.  However a pattern is
written, it has one of six forms, and the form settles what it is compiled to
(`Pattern.Form`).

Compiling cuts the stars off by counting bytes.  A star has one byte, so the cuts fall between
characters, and they never cross (`Pattern.IsCutFrom`): a single star, where they would, is
compiled without a cut.

A star inside the body stands for itself.  Where the body has none, a pattern means what it
means if every star stands for any text (`Pattern.Glob`).

Main result: for all patterns and reasons, compiled patterns are passed as this grammar says
(`meetsGrammar_compile`).
-/
import EventJournal.Routing.Pattern
import Mathlib.Data.List.Infix

namespace EventJournal

namespace Pattern

/-! ### Ends and bodies -/

/-- Any text may stand in front of the body. -/
def OpensFront (s : List Char) : Prop := s.head? = some star

/-- Any text may stand behind the body. -/
def OpensBack (s : List Char) : Prop := s.getLast? = some star

instance (s : List Char) : Decidable (OpensFront s) :=
  inferInstanceAs (Decidable (s.head? = some star))

instance (s : List Char) : Decidable (OpensBack s) :=
  inferInstanceAs (Decidable (s.getLast? = some star))

/-- The pattern without a star in front and, of what is left, without a star behind. -/
def bodyOf (s : List Char) : List Char :=
  let rest := if OpensFront s then s.tail else s
  if OpensBack rest then rest.dropLast else rest

theorem eq_cons_of_opensFront {s : List Char} (h : OpensFront s) : ∃ t, s = star :: t :=
  List.head?_eq_some_iff.1 h

theorem eq_concat_of_opensBack {s : List Char} (h : OpensBack s) : ∃ t, s = t ++ [star] :=
  List.getLast?_eq_some_iff.1 h

theorem opensFront_cons (s : List Char) : OpensFront (star :: s) := rfl

theorem opensBack_concat (s : List Char) : OpensBack (s ++ [star]) := List.getLast?_concat

/-- What is put behind a text does not open it in front. -/
theorem opensFront_append_iff {t u : List Char} (ht : t ≠ []) :
    OpensFront (t ++ u) ↔ OpensFront t := by
  unfold OpensFront
  rw [List.head?_append_of_ne_nil _ ht]

/-- What is put in front of a text does not open it behind. -/
theorem opensBack_cons_iff {c : Char} {t : List Char} (ht : t ≠ []) :
    OpensBack (c :: t) ↔ OpensBack t := by
  unfold OpensBack
  rw [← List.singleton_append, List.getLast?_append_of_ne_nil _ ht]

theorem opensBack_cons_concat (s : List Char) : OpensBack (star :: (s ++ [star])) :=
  opensBack_concat (star :: s)

/-! ### Forms -/

/-- How a pattern can be written, with its body and what it is compiled to. -/
inductive Form : List Char → List Char → Pattern → Prop
  /-- One star opens both ends. -/
  | lone : Form [star] [] any
  | pair : Form [star, star] [] any
  | both {t : List Char} : t ≠ [] → Form (star :: (t ++ [star])) t (contains (.ofList t))
  | front {t : List Char} : t ≠ [] → ¬ OpensBack t → Form (star :: t) t (endsWith (.ofList t))
  | back {t : List Char} : t ≠ [] → ¬ OpensFront t →
      Form (t ++ [star]) t (startsWith (.ofList t))
  | closed {t : List Char} : ¬ OpensFront t → ¬ OpensBack t → Form t t (exact (.ofList t))

/-- Every pattern has a form. -/
theorem exists_form (s : List Char) : ∃ t p, Form s t p := by
  by_cases hfront : OpensFront s
  · obtain ⟨t, rfl⟩ := eq_cons_of_opensFront hfront
    by_cases ht : t = []
    · rw [ht]
      exact ⟨_, _, .lone⟩
    · by_cases hback : OpensBack t
      · obtain ⟨u, rfl⟩ := eq_concat_of_opensBack hback
        by_cases hu : u = []
        · rw [hu]
          exact ⟨_, _, .pair⟩
        · exact ⟨_, _, .both hu⟩
      · -- only the front is open
        exact ⟨_, _, .front ht hback⟩
  · by_cases hback : OpensBack s
    · obtain ⟨t, rfl⟩ := eq_concat_of_opensBack hback
      by_cases ht : t = []
      · rw [ht] at hfront
        exact absurd rfl hfront
      · exact ⟨_, _, .back ht (mt (opensFront_append_iff ht).2 hfront)⟩
    · exact ⟨_, _, .closed hfront hback⟩

/-- Compiling asks for the ends. -/
theorem ofChars_eq_ite (s : List Char) :
    ofChars s =
      if s = [star] ∨ s = [star, star] then any
      else if OpensFront s then
        if OpensBack s then contains (.ofList s.tail.dropLast) else endsWith (.ofList s.tail)
      else if OpensBack s then startsWith (.ofList s.dropLast) else exact (.ofList s) := rfl

namespace Form

variable {s t : List Char} {p : Pattern}

/-- The form gives the body. -/
theorem bodyOf_eq (h : Form s t p) : bodyOf s = t := by
  unfold bodyOf
  cases h with
  | lone => rfl
  | pair => rfl
  | both =>
    rw [if_pos (opensFront_cons _), List.tail_cons, if_pos (opensBack_concat t),
      List.dropLast_concat]
  | front _ hback => rw [if_pos (opensFront_cons _), List.tail_cons, if_neg hback]
  | back ht hfront =>
    rw [if_neg (mt (opensFront_append_iff ht).1 hfront), if_pos (opensBack_concat t),
      List.dropLast_concat]
  | closed hfront hback => rw [if_neg hfront, if_neg hback]

/-- Compiling goes by the form. -/
theorem ofChars_eq (h : Form s t p) : ofChars s = p := by
  rw [ofChars_eq_ite]
  cases h with
  | lone => rfl
  | pair => rfl
  | both ht =>
    have hstars : ¬ (star :: (t ++ [star]) = [star] ∨ star :: (t ++ [star]) = [star, star]) := by
      simpa using ht
    rw [if_neg hstars, if_pos (opensFront_cons _), if_pos (opensBack_cons_concat t),
      List.tail_cons, List.dropLast_concat]
  -- the only star is in front, so neither of the special cases applies
  | front ht hback =>
    have hclosed : ¬ OpensBack (star :: t) := mt (opensBack_cons_iff ht).1 hback
    have hstars : ¬ (star :: t = [star] ∨ star :: t = [star, star]) := by
      rintro (h | h) <;> rw [h] at hclosed <;> exact hclosed rfl
    rw [if_neg hstars, if_pos (opensFront_cons _), if_neg hclosed, List.tail_cons]
  | back ht hfront =>
    have hclosed : ¬ OpensFront (t ++ [star]) := mt (opensFront_append_iff ht).1 hfront
    have hstars : ¬ (t ++ [star] = [star] ∨ t ++ [star] = [star, star]) := by
      rintro (h | h) <;> rw [h] at hclosed <;> exact hclosed rfl
    rw [if_neg hstars, if_neg hclosed, if_pos (opensBack_concat t), List.dropLast_concat]
  | closed hfront hback =>
    have hstars : ¬ (s = [star] ∨ s = [star, star]) := by
      rintro (rfl | rfl) <;> exact hfront rfl
    rw [if_neg hstars, if_neg hfront, if_neg hback]

end Form

/-! ### What is covered -/

/-- The reason is the body, with something in front of it or behind it only where the pattern
is open. -/
def Covers (s r : List Char) : Prop :=
  ∃ a b, r = a ++ bodyOf s ++ b ∧ (¬ OpensFront s → a = []) ∧ (¬ OpensBack s → b = [])

/-- A reason passes what a form is compiled to if the form covers it. -/
theorem Form.matches_iff {s t : List Char} {p : Pattern} (h : Form s t p) (r : String) :
    p.Matches r ↔ Covers s r.toList := by
  unfold Covers
  rw [h.bodyOf_eq]
  cases h with
  | lone => exact iff_of_true trivial ⟨r.toList, [], by simp, by simp [OpensFront], by simp⟩
  | pair => exact iff_of_true trivial ⟨r.toList, [], by simp, by simp [OpensFront], by simp⟩
  | both ht =>
    rw [Matches, String.toList_ofList]
    constructor
    · rintro ⟨a, b, hr⟩
      exact ⟨a, b, hr.symm, absurd (opensFront_cons _), absurd (opensBack_cons_concat t)⟩
    · rintro ⟨a, b, hr, -, -⟩
      exact ⟨a, b, hr.symm⟩
  | front ht hback =>
    have hclosed : ¬ OpensBack (star :: t) := mt (opensBack_cons_iff ht).1 hback
    rw [Matches, String.toList_ofList]
    constructor
    · rintro ⟨a, hr⟩
      exact ⟨a, [], by rw [hr, List.append_nil], absurd (opensFront_cons _), fun _ => rfl⟩
    · rintro ⟨a, b, hr, -, hb⟩
      rw [hb hclosed, List.append_nil] at hr
      exact ⟨a, hr.symm⟩
  | back ht hfront =>
    have hclosed : ¬ OpensFront (t ++ [star]) := mt (opensFront_append_iff ht).1 hfront
    rw [Matches, String.toList_ofList]
    constructor
    · rintro ⟨b, hr⟩
      exact ⟨[], b, hr.symm, fun _ => rfl, absurd (opensBack_concat t)⟩
    · rintro ⟨a, b, hr, ha, -⟩
      rw [ha hclosed, List.nil_append] at hr
      exact ⟨b, hr.symm⟩
  | closed hfront hback =>
    rw [Matches, ← String.toList_inj, String.toList_ofList]
    constructor
    · intro hr
      exact ⟨[], [], by rw [hr, List.nil_append, List.append_nil], fun _ => rfl, fun _ => rfl⟩
    · rintro ⟨a, b, hr, ha, hb⟩
      rwa [ha hfront, hb hback, List.nil_append, List.append_nil] at hr

/-! ### Cuts -/

/-- `t` is left of `s` if `front` bytes are cut off in front and `back` bytes behind.  There is
such a `t` only if both cuts fall between characters and do not cross. -/
def IsCut (s t : String) (front back : Nat) : Prop :=
  ∃ a b : String, s = a ++ t ++ b ∧ a.utf8ByteSize = front ∧ b.utf8ByteSize = back

/-- The pattern was compiled from `s` by cutting off a byte for each star. -/
def IsCutFrom (s : String) : Pattern → Prop
  | any => s = "*" ∨ s = "**"
  | exact t => IsCut s t 0 0
  | startsWith t => IsCut s t 0 1
  | endsWith t => IsCut s t 1 0
  | contains t => IsCut s t 1 1

/-- Each star of a form is one byte, cut off at its own end. -/
theorem Form.isCutFrom {s t : List Char} {p : Pattern} (h : Form s t p) :
    p.IsCutFrom (.ofList s) := by
  -- whatever is around `t` is cut off, counted in bytes
  have hcut (a b : List Char) : IsCut (.ofList (a ++ t ++ b)) (.ofList t)
      (String.ofList a).utf8ByteSize (String.ofList b).utf8ByteSize :=
    ⟨.ofList a, .ofList b, by rw [String.ofList_append, String.ofList_append], rfl, rfl⟩
  cases h with
  | lone => exact Or.inl rfl
  | pair => exact Or.inr rfl
  | both => exact hcut [star] [star]
  | front =>
    have h := hcut [star] []
    rw [List.append_nil] at h
    exact h
  | back => exact hcut [] [star]
  | closed =>
    have h := hcut [] []
    rw [List.append_nil] at h
    exact h

/-! ### Stars everywhere -/

/-- Every star stands for any text, wherever it is. -/
inductive Glob : List Char → List Char → Prop
  | nil : Glob [] []
  | char {c : Char} {s r : List Char} : c ≠ star → Glob s r → Glob (c :: s) (c :: r)
  | star (a : List Char) {s r : List Char} : Glob s r → Glob (star :: s) (a ++ r)

/-- An empty pattern stands for the empty text. -/
theorem glob_nil_iff {r : List Char} : Glob [] r ↔ r = [] := by
  constructor
  · intro h
    cases h
    rfl
  · rintro rfl
    exact .nil

/-- A star takes some text from the front and leaves the rest to what follows. -/
theorem glob_star_iff {s r : List Char} : Glob (star :: s) r ↔ ∃ a b, r = a ++ b ∧ Glob s b := by
  constructor
  · intro h
    cases h with
    | char hne _ => exact absurd rfl hne
    | star a hs => exact ⟨a, _, rfl, hs⟩
  · rintro ⟨a, b, rfl, hs⟩
    exact .star a hs

/-- Text without stars stands for itself, by induction on the text. -/
theorem glob_append_iff {t s r : List Char} (ht : star ∉ t) :
    Glob (t ++ s) r ↔ ∃ b, r = t ++ b ∧ Glob s b := by
  induction t generalizing r with
  | nil => simp
  | cons c t ih =>
    obtain ⟨hc, ht⟩ := not_or.1 (mt List.mem_cons.2 ht)
    constructor
    · intro h
      cases h with
      | char _ hrest =>
        obtain ⟨b, rfl, hb⟩ := (ih ht).1 hrest
        exact ⟨b, rfl, hb⟩
      | star => exact absurd rfl hc
    · rintro ⟨b, rfl, hb⟩
      exact .char (Ne.symm hc) ((ih ht).2 ⟨b, rfl, hb⟩)

/-- A star at the end stands for whatever is left. -/
theorem glob_lone {r : List Char} : Glob [star] r :=
  glob_star_iff.2 ⟨r, [], (List.append_nil r).symm, .nil⟩

/-- A pattern without stars stands for itself alone. -/
theorem glob_iff_eq {t r : List Char} (ht : star ∉ t) : Glob t r ↔ r = t := by
  have h := glob_append_iff (s := []) (r := r) ht
  simpa [glob_nil_iff] using h

/-- Without a star in the body, compiled patterns are passed as if every star stood for any
text. -/
theorem Form.matches_iff_glob {s t : List Char} {p : Pattern} (h : Form s t p) (ht : star ∉ t)
    (r : String) : p.Matches r ↔ Glob s r.toList := by
  cases h with
  | lone => exact iff_of_true trivial glob_lone
  | pair => exact iff_of_true trivial (glob_star_iff.2 ⟨[], r.toList, rfl, glob_lone⟩)
  | both =>
    rw [Matches, String.toList_ofList, glob_star_iff]
    constructor
    · rintro ⟨a, b, hr⟩
      refine ⟨a, t ++ b, ?_, (glob_append_iff ht).2 ⟨b, rfl, glob_lone⟩⟩
      rw [← hr, List.append_assoc]
    · rintro ⟨a, _, hr, hglob⟩
      obtain ⟨b, rfl, -⟩ := (glob_append_iff ht).1 hglob
      exact ⟨a, b, by rw [hr, List.append_assoc]⟩
  | front =>
    rw [Matches, String.toList_ofList, glob_star_iff]
    constructor
    · rintro ⟨a, hr⟩
      exact ⟨a, t, hr.symm, (glob_iff_eq ht).2 rfl⟩
    · rintro ⟨a, _, hr, hglob⟩
      rw [(glob_iff_eq ht).1 hglob] at hr
      exact ⟨a, hr.symm⟩
  | back =>
    rw [Matches, String.toList_ofList, glob_append_iff ht]
    constructor
    · rintro ⟨b, hr⟩
      exact ⟨b, hr.symm, glob_lone⟩
    · rintro ⟨b, hr, -⟩
      exact ⟨b, hr.symm⟩
  | closed => rw [Matches, ← String.toList_inj, String.toList_ofList, glob_iff_eq ht]

/-! ### The grammar -/

/-- The body of a pattern. -/
def body (s : String) : String := .ofList (bodyOf s.toList)

/-- The pattern that is written `s` is passed by the reason `r` as the grammar says. -/
structure MeetsGrammar (s r : String) : Prop where
  /-- The reason is the body, with any text in front of it if the pattern begins with a star and
  any text behind it if the pattern ends with one. -/
  splits : (compile s).Matches r ↔ ∃ a b : String, r = a ++ body s ++ b ∧
    (s.toList.head? ≠ some star → a = "") ∧ (s.toList.getLast? ≠ some star → b = "")
  /-- What is cut off is within the pattern. -/
  cuts : (compile s).IsCutFrom s
  /-- If no star is in the body, every star stands for any text. -/
  globs : star ∉ (body s).toList → ((compile s).Matches r ↔ Glob s.toList r.toList)

/-- The same on texts instead of lists of characters. -/
theorem covers_iff_exists {s r : String} :
    Covers s.toList r.toList ↔ ∃ a b : String, r = a ++ body s ++ b ∧
      (¬ OpensFront s.toList → a = "") ∧ (¬ OpensBack s.toList → b = "") := by
  unfold body
  constructor
  · rintro ⟨a, b, hr, ha, hb⟩
    refine ⟨.ofList a, .ofList b, ?_, fun h => ?_, fun h => ?_⟩
    · rw [← String.ofList_append, ← String.ofList_append, ← hr, String.ofList_toList]
    · rw [ha h, String.ofList_nil]
    · rw [hb h, String.ofList_nil]
  · rintro ⟨a, b, rfl, ha, hb⟩
    refine ⟨a.toList, b.toList, ?_, fun h => ?_, fun h => ?_⟩
    · rw [String.toList_append, String.toList_append, String.toList_ofList]
    · rw [ha h, String.toList_empty]
    · rw [hb h, String.toList_empty]

/-- **Patterns mean what their grammar says**, whatever characters they and the reasons are made
of. -/
theorem meetsGrammar_compile (s r : String) : MeetsGrammar s r := by
  obtain ⟨t, p, hform⟩ := exists_form s.toList
  have hcompile : compile s = p := hform.ofChars_eq
  refine ⟨?_, ?_, ?_⟩
  · rw [hcompile, hform.matches_iff]
    exact covers_iff_exists
  · have hcut := hform.isCutFrom
    rwa [String.ofList_toList, ← hcompile] at hcut
  · intro hbody
    rw [body, String.toList_ofList, hform.bodyOf_eq] at hbody
    rw [hcompile]
    exact hform.matches_iff_glob hbody r

/-- In three stars the one in the middle stands for itself. -/
example : (compile "***").Matches "a*b" ∧ ¬ (compile "***").Matches "ab" := by decide

end Pattern

end EventJournal
