/-
EventJournal/Table.lean

Finite maps that keep their rows in the order in which the keys were first
inserted.  Every piece of bookkeeping of the library that is looked up by a key
(streams, readers, cached routes, pending records, adapters, rules) is a table.
The rows have pairwise different keys; this is part of the type, so counting
rows counts keys and a look-up never meets a stale row.

A table is seen through `get?`; each operation has its equation:
`get?_insert`, `get?_erase`, `get?_empty`.  `keys_insert` says where a new key goes.
-/

namespace EventJournal

/-- A finite map from `κ` to `α` with its rows in order of first insertion. -/
structure Table (κ α : Type) where
  rows : List (κ × α)
  nodup_keys : (rows.map Prod.fst).Nodup
deriving Repr

namespace Table

variable {κ α : Type}

/-- The table without rows. -/
def empty : Table κ α := ⟨[], List.nodup_nil⟩

instance : EmptyCollection (Table κ α) := ⟨empty⟩

instance : Inhabited (Table κ α) := ⟨empty⟩

/-- The keys, in order of first insertion. -/
def keys (t : Table κ α) : List κ := t.rows.map Prod.fst

/-- The values, in the order of their keys. -/
def values (t : Table κ α) : List α := t.rows.map Prod.snd

/-- The number of rows. -/
def size (t : Table κ α) : Nat := t.rows.length

theorem ext_rows {s t : Table κ α} (h : s.rows = t.rows) : s = t := by
  cases s; cases t; cases h; rfl

theorem nodup (t : Table κ α) : t.keys.Nodup := t.nodup_keys

theorem length_keys (t : Table κ α) : t.keys.length = t.size := List.length_map ..

variable [DecidableEq κ]

instance [DecidableEq α] : DecidableEq (Table κ α) := fun s t =>
  decidable_of_iff (s.rows = t.rows) ⟨ext_rows, congrArg rows⟩

/-- The value stored under `k`. -/
def get? (t : Table κ α) (k : κ) : Option α := t.rows.lookup k

/-- The value stored under `k`, or `a` if there is none. -/
def getD (t : Table κ α) (k : κ) (a : α) : α := (t.get? k).getD a

instance : Membership κ (Table κ α) := ⟨fun t k => k ∈ t.keys⟩

instance (k : κ) (t : Table κ α) : Decidable (k ∈ t) :=
  inferInstanceAs (Decidable (k ∈ t.keys))

/-! ### Rows -/

/-- Writes `a` into the row of `k`, which is added at the end if it is missing. -/
def setRow (k : κ) (a : α) : List (κ × α) → List (κ × α)
  | [] => [(k, a)]
  | r :: rest => if r.1 = k then (k, a) :: rest else r :: setRow k a rest

/-- Writing a row keeps the order of the keys; a new one goes to the end. -/
theorem keys_setRow (k : κ) (a : α) (l : List (κ × α)) :
    (setRow k a l).map Prod.fst
      = if k ∈ l.map Prod.fst then l.map Prod.fst else l.map Prod.fst ++ [k] := by
  induction l with
  | nil => simp [setRow]
  | cons r rest ih =>
    by_cases h : r.1 = k
    · simp [setRow, h]
    · have h' : ¬ k = r.1 := fun e => h e.symm
      simp only [setRow, if_neg h, List.map_cons, ih, List.mem_cons, h', false_or]
      split <;> simp

/-- So no key comes up twice. -/
theorem nodup_setRow (k : κ) (a : α) {l : List (κ × α)} (h : (l.map Prod.fst).Nodup) :
    ((setRow k a l).map Prod.fst).Nodup := by
  rw [keys_setRow]
  split
  · exact h
  · rename_i hk
    -- the new key stands behind the old ones and is none of them
    refine List.nodup_append.2 ⟨h, by simp, ?_⟩
    intro x hx y hy
    rw [List.mem_singleton] at hy
    subst hy
    exact fun e => hk (e ▸ hx)

/-- The first row answers for its key, and the others for all other keys. -/
theorem lookup_cons_eq_ite (k : κ) (r : κ × α) (l : List (κ × α)) :
    (r :: l).lookup k = if k = r.1 then some r.2 else l.lookup k := by
  obtain ⟨k₁, a₁⟩ := r
  by_cases h : k = k₁
  · simp [h]
  · have hb : (k == k₁) = false := by simpa using h
    simp only [List.lookup_cons, hb, if_neg h]

/-- Writing a row is seen under its key and nowhere else. -/
theorem lookup_setRow (k k' : κ) (a : α) (l : List (κ × α)) :
    (setRow k a l).lookup k' = if k' = k then some a else l.lookup k' := by
  induction l with
  | nil => simp only [setRow, lookup_cons_eq_ite, List.lookup_nil]
  | cons r rest ih =>
    by_cases hr : r.1 = k
    · rw [setRow, if_pos hr, lookup_cons_eq_ite, lookup_cons_eq_ite, hr]
      split <;> rfl
    · simp only [setRow, if_neg hr, lookup_cons_eq_ite, ih]
      by_cases h : k' = r.1
      · have h' : ¬ k' = k := fun e => hr (h.symm.trans e)
        simp only [if_pos h, if_neg h']
      · simp only [if_neg h]

/-- So is removing the row of a key. -/
theorem lookup_filter_ne (k k' : κ) (l : List (κ × α)) :
    (l.filter (fun r => r.1 ≠ k)).lookup k' = if k' = k then none else l.lookup k' := by
  induction l with
  | nil => simp
  | cons r rest ih =>
    by_cases hr : r.1 = k
    · rw [List.filter_cons_of_neg (by simp [hr]), ih, lookup_cons_eq_ite, hr]
      split <;> rfl
    · rw [List.filter_cons_of_pos (by simp [hr]), lookup_cons_eq_ite, lookup_cons_eq_ite, ih]
      by_cases h : k' = r.1
      · have h' : ¬ k' = k := fun e => hr (h.symm.trans e)
        simp only [if_pos h, if_neg h']
      · simp only [if_neg h]

/-- Only a key without a row has no value. -/
theorem lookup_eq_none_iff {k : κ} {l : List (κ × α)} :
    l.lookup k = none ↔ k ∉ l.map Prod.fst := by
  induction l with
  | nil => simp
  | cons r rest ih =>
    rw [lookup_cons_eq_ite, List.map_cons, List.mem_cons, not_or]
    by_cases h : k = r.1
    · simp [h]
    · rw [if_neg h, ih]
      simp only [h, not_false_eq_true, true_and]

/-! ### Writing -/

/-- Stores `a` under `k`; a key that is new goes to the end. -/
def insert (t : Table κ α) (k : κ) (a : α) : Table κ α :=
  ⟨setRow k a t.rows, nodup_setRow k a t.nodup_keys⟩

/-- Removes the row of `k`. -/
def erase (t : Table κ α) (k : κ) : Table κ α :=
  ⟨t.rows.filter (fun r => r.1 ≠ k),
    t.nodup_keys.sublist (List.Sublist.map _ List.filter_sublist)⟩

@[simp, grind =] theorem get?_empty (k : κ) : (∅ : Table κ α).get? k = none := rfl

@[grind =] theorem get?_insert (t : Table κ α) (k k' : κ) (a : α) :
    (t.insert k a).get? k' = if k' = k then some a else t.get? k' :=
  lookup_setRow k k' a t.rows

@[simp] theorem get?_insert_self (t : Table κ α) (k : κ) (a : α) :
    (t.insert k a).get? k = some a := by
  simp [get?_insert]

theorem get?_insert_of_ne (t : Table κ α) {k k' : κ} (a : α) (h : k' ≠ k) :
    (t.insert k a).get? k' = t.get? k' := by
  simp [get?_insert, h]

@[grind =] theorem get?_erase (t : Table κ α) (k k' : κ) :
    (t.erase k).get? k' = if k' = k then none else t.get? k' :=
  lookup_filter_ne k k' t.rows

theorem get?_eq_none_iff {t : Table κ α} {k : κ} : t.get? k = none ↔ k ∉ t :=
  lookup_eq_none_iff

/-- A key is in the table if something is stored under it. -/
theorem mem_iff_get?_isSome {t : Table κ α} {k : κ} : k ∈ t ↔ (t.get? k).isSome := by
  cases h : t.get? k with
  | none => simp [get?_eq_none_iff.1 h]
  | some a =>
    have : ¬ t.get? k = none := by simp [h]
    simpa [get?_eq_none_iff] using this

omit [DecidableEq κ] in
@[simp, grind =] theorem keys_empty : (∅ : Table κ α).keys = [] := rfl

theorem keys_insert (t : Table κ α) (k : κ) (a : α) :
    (t.insert k a).keys = if k ∈ t then t.keys else t.keys ++ [k] :=
  keys_setRow k a t.rows

theorem mem_insert {t : Table κ α} {k k' : κ} {a : α} :
    k' ∈ t.insert k a ↔ k' = k ∨ k' ∈ t := by
  simp only [mem_iff_get?_isSome, get?_insert]
  split <;> simp [*]

theorem mem_erase {t : Table κ α} {k k' : κ} : k' ∈ t.erase k ↔ k' ≠ k ∧ k' ∈ t := by
  simp only [mem_iff_get?_isSome, get?_erase]
  split <;> simp [*]

/-- Each row is found under its key, since keys do not come up twice. -/
theorem get?_eq_some_iff {t : Table κ α} {k : κ} {a : α} :
    t.get? k = some a ↔ (k, a) ∈ t.rows := by
  obtain ⟨l, hl⟩ := t
  simp only [get?]
  induction l with
  | nil => simp
  | cons r rest ih =>
    obtain ⟨k₁, a₁⟩ := r
    rw [List.map_cons, List.nodup_cons] at hl
    rw [lookup_cons_eq_ite, List.mem_cons, Prod.mk.injEq]
    by_cases h : k = k₁
    · subst h
      -- a later row of this key would be a second one
      have hn : (k, a) ∉ rest := fun hm => hl.1 (List.mem_map.2 ⟨(k, a), hm, rfl⟩)
      simp [hn, eq_comm]
    · rw [if_neg h, ih hl.2]
      simp only [h, false_and, false_or]

end Table

end EventJournal
