/-
EventJournal/Shape.lean

The JSON form of the library's values.  A type has a `Shape` when its values can
be written as JSON and read back; reading refuses everything that is not such a form.

A record is written as an object with its fields by name, and read from an object
or from an array of its fields in declaration order.  `columns` takes either one
apart; then each column is read on its own, `required` or `optional`.  Fields with
unknown names are ignored.  A choice among finitely many names is written as a
string (`tag?`).
-/
import EventJournal.Json

namespace EventJournal

/-- Values with a JSON form. -/
class Shape (α : Type) where
  write : α → Json
  read : Json → Option α

namespace Shape

/-- The fields of a record in the order of `names`: by name from an object, where a
field may be missing, or by place from an array, which must hold exactly these fields. -/
def columns (names : List String) : Json → Option (List (Option Json))
  | .obj fields => some (names.map fun name => List.lookup name fields)
  | .arr items => if items.length = names.length then some (items.map some) else none
  | _ => none

/-- Writes the fields of a record under their names. -/
def record (names : List String) (values : List Json) : Json := .obj (names.zip values)

/-- Reads a column that has to be there. -/
def required {α : Type} (read : Json → Option α) (column : Option Json) : Option α :=
  column.bind read

/-- Reads a column that may be missing or null. -/
def optional {α : Type} (read : Json → Option α) : Option Json → Option (Option α)
  | none => some none
  | some .null => some none
  | some j => (read j).map some

/-- Writes an absent value as null. -/
def orNull {α : Type} (write : α → Json) : Option α → Json
  | none => .null
  | some a => write a

/-- Reads one of finitely many names, given as a string or as the only key of an
object whose value is null. -/
def tag? {α : Type} (named : String → Option α) : Json → Option α
  | .str s => named s
  | .obj [(s, .null)] => named s
  | _ => none

/-- Reads an array item by item. -/
def list? {α : Type} (read : Json → Option α) : Json → Option (List α)
  | .arr items => items.mapM read
  | _ => none

/-! ### Records read back -/

theorem columns_arr {names : List String} {values : List Json}
    (h : values.length = names.length) : columns names (.arr values) = some (values.map some) := by
  simp [columns, h]

theorem lookup_zip_eq_map {names : List String} {values : List Json}
    (hlen : values.length = names.length) (hnd : names.Nodup) :
    names.map (fun name => List.lookup name (names.zip values)) = values.map some := by
  induction names generalizing values with
  | nil =>
    rw [List.length_nil, List.length_eq_zero_iff] at hlen
    simp [hlen]
  | cons n names ih =>
    cases values with
    | nil => simp at hlen
    | cons v values =>
      rw [List.length_cons, List.length_cons, Nat.add_right_cancel_iff] at hlen
      rw [List.nodup_cons] at hnd
      have hrest : names.map (fun name => List.lookup name ((n, v) :: names.zip values))
          = names.map (fun name => List.lookup name (names.zip values)) := by
        refine List.map_congr_left fun m hm => ?_
        have hne : (m == n) = false := by
          simpa using fun e : m = n => hnd.1 (e ▸ hm)
        simp only [List.lookup_cons, hne]
      simp only [List.zip_cons_cons, List.map_cons, hrest, ih hlen hnd.2]
      simp

/-- A written record gives back its fields. -/
theorem columns_record {names : List String} {values : List Json}
    (hlen : values.length = names.length) (hnd : names.Nodup) :
    columns names (record names values) = some (values.map some) := by
  simp only [columns, record, lookup_zip_eq_map hlen hnd]

theorem mapM_read_write {α : Type} {read : Json → Option α} {write : α → Json} {l : List α}
    (h : ∀ a ∈ l, read (write a) = some a) : (l.map write).mapM read = some l := by
  induction l with
  | nil => rfl
  | cons a l ih =>
    rw [List.map_cons, List.mapM_cons, h a List.mem_cons_self,
      ih fun b hb => h b (List.mem_cons_of_mem _ hb)]
    rfl

end Shape

instance : Shape String := ⟨.str, Json.str?⟩

instance : Shape Json := ⟨id, some⟩

end EventJournal
