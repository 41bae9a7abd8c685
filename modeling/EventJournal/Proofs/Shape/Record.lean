/-
EventJournal/Proofs/Shape/Record.lean

Readers and writers of JSON forms, and the forms of records.

`Inverts` says of a reader and a writer that values in range are read back and that nothing
out of range is read; the second half is what makes a value read once survive being written
and read again.  It is passed on by the ways in which forms are built from forms: lists,
optional columns, names.

A record is read through its columns.  A column is found by its name, so neither the other
fields of an object nor their order matter (`columns_eq_of_perm`), and an array of the values
has the same columns as the object (`columns_arr`).  Whatever is read from the columns alone
does not see the difference (`IsRecord.readsAsRecord`).
-/
import EventJournal.Shape
import EventJournal.Table
import Mathlib.Data.List.Basic
import Mathlib.Data.List.Nodup
import Mathlib.Order.Nat

namespace EventJournal

namespace Shape

variable {α : Type}

/-! ### Readers and writers -/

/-- A reader gives back what a writer wrote of a value in range, and nothing out of range. -/
structure Inverts (read : Json → Option α) (write : α → Json) (InRange : α → Prop) : Prop where
  read_write : ∀ {a}, InRange a → read (write a) = some a
  inRange : ∀ {j a}, read j = some a → InRange a

/-- What is written can be read, and what was read can be written and read again. -/
structure RoundTrips (α : Type) [Shape α] (InRange : α → Prop) : Prop where
  /-- A value in range is read back from its written form. -/
  read_write : ∀ v : α, InRange v → Shape.read (Shape.write v) = some v
  /-- So is every value that was read, in whatever form. -/
  read_again : ∀ (j : Json) (v : α), Shape.read j = some v →
    Shape.read (Shape.write v) = some v

theorem Inverts.roundTrips [Shape α] {InRange : α → Prop}
    (h : Inverts Shape.read (Shape.write : α → Json) InRange) : RoundTrips α InRange :=
  ⟨fun _ hv => h.read_write hv, fun _ _ hj => h.read_write (h.inRange hj)⟩

variable {read : Json → Option α} {write : α → Json} {InRange : α → Prop}

theorem inverts_tag {name : α → String} {named : String → Option α}
    (h : ∀ a, named (name a) = some a) :
    Inverts (tag? named) (fun a => .str (name a)) fun _ => True :=
  ⟨fun _ => h _, fun _ => trivial⟩

/-! ### Columns -/

@[simp] theorem read_str (s : String) : Shape.read (.str s) = some s := rfl

@[simp] theorem read_json (j : Json) : Shape.read j = some j := rfl

@[simp] theorem required_some (j : Json) : required read (some j) = read j := rfl

/-- The number of a column fits into its bits. -/
theorem lt_of_required {bits n : Nat} {column : Option Json}
    (h : required (Json.nat? bits) column = some n) : n < Nat.pow 2 bits := by
  obtain ⟨j, -, hj⟩ := Option.bind_eq_some_iff.1 h
  exact (Json.nat?_eq_some hj).2

theorem Inverts.inRange_of_required (h : Inverts read write InRange) {column : Option Json} {a : α}
    (hcolumn : required read column = some a) : InRange a := by
  obtain ⟨j, -, hj⟩ := Option.bind_eq_some_iff.1 hcolumn
  exact h.inRange hj

/-- A list whose items are read back is read back. -/
theorem Inverts.list?_map (h : Inverts read write InRange) {l : List α}
    (hl : ∀ a ∈ l, InRange a) : list? read (.arr (l.map write)) = some l :=
  mapM_read_write fun a ha => h.read_write (hl a ha)

theorem Inverts.inRange_of_mapM (h : Inverts read write InRange) {items : List Json}
    {l : List α} (hl : items.mapM read = some l) : ∀ a ∈ l, InRange a := by
  induction items generalizing l with
  | nil =>
    cases hl
    exact List.forall_mem_nil _
  | cons j items ih =>
    simp only [List.mapM_cons, Option.bind_eq_bind, Option.bind_eq_some_iff, Option.pure_def,
      Option.some.injEq] at hl
    obtain ⟨a, ha, l, hl, rfl⟩ := hl
    exact List.forall_mem_cons.2 ⟨h.inRange ha, ih hl⟩

theorem Inverts.inRange_of_list (h : Inverts read write InRange) {column : Option Json}
    {l : List α} (hcolumn : required (list? read) column = some l) : ∀ a ∈ l, InRange a := by
  obtain ⟨j, -, hj⟩ := Option.bind_eq_some_iff.1 hcolumn
  cases j with
  | arr items => exact h.inRange_of_mapM hj
  | _ => cases hj

theorem optional_of_ne_null {j : Json} (h : j ≠ .null) :
    optional read (some j) = (read j).map some := by
  cases j with
  | null => exact absurd rfl h
  | _ => rfl

/-- A value that may be absent is read back, unless it is written as if it were. -/
theorem Inverts.optional_orNull (h : Inverts read write InRange) {o : Option α}
    (ho : ∀ a ∈ o, InRange a ∧ write a ≠ .null) :
    optional read (some (orNull write o)) = some o := by
  cases o with
  | none => rfl
  | some a =>
    obtain ⟨hrange, hnull⟩ := ho a rfl
    rw [orNull, optional_of_ne_null hnull, h.read_write hrange, Option.map_some]

/-- What is read from an optional column is read from something other than null. -/
theorem exists_of_optional {column : Option Json} {a : α}
    (h : optional read column = some (some a)) : ∃ j, j ≠ .null ∧ read j = some a := by
  cases column with
  | none => cases h
  | some j =>
    by_cases hnull : j = .null
    · subst hnull
      cases h
    · rw [optional_of_ne_null hnull, Option.map_eq_some_iff] at h
      obtain ⟨_, ha, hsome⟩ := h
      exact ⟨j, hnull, Option.some.inj hsome ▸ ha⟩

theorem Inverts.inRange_of_optional (h : Inverts read write InRange) {column : Option Json}
    {o : Option α} (hcolumn : optional read column = some o) : ∀ a ∈ o, InRange a := by
  rintro a rfl
  obtain ⟨_, -, hj⟩ := exists_of_optional hcolumn
  exact h.inRange hj

/-! ### Records -/

/-- A field that passes a filter is found as before. -/
theorem lookup_filter {fields : List (String × Json)} {keep : String × Json → Bool}
    {name : String} (h : ∀ j, keep (name, j)) :
    (fields.filter keep).lookup name = fields.lookup name := by
  induction fields with
  | nil => rfl
  | cons f fields ih =>
    by_cases hname : name = f.1
    · have hkeep : keep f := by
        have := h f.2
        rwa [hname] at this
      rw [List.filter_cons_of_pos hkeep, Table.lookup_cons_eq_ite, Table.lookup_cons_eq_ite, ih]
    · rw [Table.lookup_cons_eq_ite, if_neg hname, ← ih, List.filter_cons]
      split
      · rw [Table.lookup_cons_eq_ite, if_neg hname]
      · rfl

/-- Fields with different names are found in any order. -/
theorem lookup_eq_of_perm {fields fields' : List (String × Json)} (h : fields.Perm fields')
    (hnd : (fields.map Prod.fst).Nodup) (name : String) :
    fields.lookup name = fields'.lookup name := by
  have hnd' : (fields'.map Prod.fst).Nodup := (h.map Prod.fst).nodup_iff.1 hnd
  ext j
  -- fields with different names are the rows of a table
  have hget : fields.lookup name = some j ↔ (name, j) ∈ fields :=
    Table.get?_eq_some_iff (t := ⟨fields, hnd⟩)
  have hget' : fields'.lookup name = some j ↔ (name, j) ∈ fields' :=
    Table.get?_eq_some_iff (t := ⟨fields', hnd'⟩)
  rw [hget, hget', h.mem_iff]

/-- Neither other fields nor the order of the fields change the columns. -/
theorem columns_eq_of_perm {names : List String} {fields more : List (String × Json)}
    (hnd : (fields.map Prod.fst).Nodup)
    (h : (more.filter fun f => f.1 ∈ names).Perm fields) :
    columns names (.obj more) = columns names (.obj fields) := by
  have hlookup : ∀ name ∈ names, more.lookup name = fields.lookup name := by
    intro name hname
    have hknown : (more.filter fun f => f.1 ∈ names).lookup name = more.lookup name :=
      lookup_filter fun _ => decide_eq_true hname
    rw [← hknown]
    exact lookup_eq_of_perm h ((h.map Prod.fst).nodup_iff.2 hnd) name
  rw [columns, columns, List.map_congr_left hlookup]

/-- A reader that takes the columns of a written record back to the value inverts its writer. -/
theorem inverts_record {names : List String} {ofColumns : List (Option Json) → Option α}
    {values : α → List Json} (hnd : names.Nodup) (hlen : ∀ a, (values a).length = names.length)
    (hread : ∀ {a}, InRange a → ofColumns ((values a).map some) = some a)
    (hrange : ∀ {cs a}, ofColumns cs = some a → InRange a) :
    Inverts (fun j => (columns names j).bind ofColumns) (fun a => record names (values a))
      InRange where
  read_write {a} ha := by
    rw [columns_record (hlen a) hnd]
    exact hread ha
  inRange hj := by
    obtain ⟨_, -, hj⟩ := Option.bind_eq_some_iff.1 hj
    exact hrange hj

/-- The values of the type are written as records with these fields and are read from the
columns alone. -/
structure IsRecord (α : Type) [Shape α] (names : List String) : Prop where
  nodup : names.Nodup
  written : ∀ v : α, ∃ values, values.length = names.length ∧ Shape.write v = record names values
  byColumns : ∃ ofColumns : List (Option Json) → Option α,
    ∀ j, Shape.read j = (columns names j).bind ofColumns

/-- The written form is an object with these fields.  Other fields and another order change
nothing, and the values alone, in the order of declaration, read as the object does. -/
def ReadsAsRecord (α : Type) [Shape α] (names : List String) : Prop :=
  ∀ v : α, ∃ fields : List (String × Json),
    Shape.write v = .obj fields ∧ fields.map Prod.fst = names ∧
    (∀ more, (more.filter fun f => f.1 ∈ names).Perm fields →
      Shape.read (α := α) (.obj more) = Shape.read (Shape.write v)) ∧
    Shape.read (α := α) (.arr (fields.map Prod.snd)) = Shape.read (Shape.write v)

theorem IsRecord.readsAsRecord [Shape α] {names : List String} (h : IsRecord α names) :
    ReadsAsRecord α names := by
  intro v
  obtain ⟨values, hlength, hwrite⟩ := h.written v
  obtain ⟨ofColumns, hread⟩ := h.byColumns
  have hnames : (names.zip values).map Prod.fst = names := List.map_fst_zip hlength.ge
  have hvalues : (names.zip values).map Prod.snd = values := List.map_snd_zip hlength.le
  refine ⟨names.zip values, hwrite, hnames, fun more hmore => ?_, ?_⟩
  · rw [hread, hread, hwrite, record, columns_eq_of_perm (hnames.symm ▸ h.nodup) hmore]
  · rw [hread, hread, hwrite, hvalues, columns_arr hlength, columns_record hlength h.nodup]

end Shape

end EventJournal
